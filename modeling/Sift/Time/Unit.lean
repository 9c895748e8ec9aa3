import Sift.Time.Zone

/-!
# Rounding and shifting by units

Years, months, weeks and days are units of the calendar: they are counted on the wall. Hours and
what is shorter are spans of time.

## Main definitions

* `Sift.DateUnit.floor`: the start of the unit that a time lies in.
* `Sift.DateUnit.ceil`: the last millisecond of that unit.
* `Sift.DateUnit.add`: the time some units later.
-/

set_option autoImplicit false

namespace Sift.DateUnit

/-- The seconds of a unit, where they are always the same. -/
def seconds? : DateUnit → Option Int
  | week => some (7 * 86400)
  | day => some 86400
  | hour => some 3600
  | minute => some 60
  | second => some 1
  | year | month => none

/-- Whether the unit is a span of time, and not one of the calendar. -/
def isExact : DateUnit → Bool
  | hour | minute | second => true
  | year | month | week | day => false

/-- The start of the unit on the wall. -/
def wallFloor (u : DateUnit) (t : WallTime) : WallTime :=
  match u with
  | year => .ofDate t.date.startOfYear
  | month => .ofDate t.date.startOfMonth
  | week => .ofDay (t.day - Date.daysFromMonday t.day)
  | day => .ofDay t.day
  | hour => ⟨t.seconds - t.seconds % 3600, 0⟩
  | minute => ⟨t.seconds - t.seconds % 60, 0⟩
  | second => ⟨t.seconds, 0⟩

/-- The start of the unit that an instant lies in. Within an hour the offset in effect at the
instant still applies. Near the ends of the calendar's range clocks may not be able to show the
instant. -/
def floor (u : DateUnit) (t : ZonedTime) (z : Zone) : Except DateError ZonedTime :=
  let t := z.localize t.instant
  if !t.wall.isValid then .error .crash
  else
    let start := u.wallFloor t.wall
    if !start.isValid then .error (.cannotRound t.wall t.offset u)
    else if u.isExact then (Zone.fixed t.offset).ofWall start
    else z.ofWall start

/-- The time some units later on the wall, if it is in range. -/
def wallAdd? (u : DateUnit) (t : WallTime) (n : Int) : Option WallTime :=
  match u with
  | year => t.addMonths? (n * 12)
  | month => t.addMonths? n
  | week => t.shift? (n * (7 * secondsPerDay))
  | day => t.shift? (n * secondsPerDay)
  | hour => t.shift? (n * 3600)
  | minute => t.shift? (n * 60)
  | second => t.shift? n

/-- The time some units later. Units of the calendar are counted on clocks that have to be able to
show the time. -/
def add (u : DateUnit) (t : ZonedTime) (n : Int) (z : Zone) : Except DateError ZonedTime :=
  match (if u.isExact then u.seconds? else none) with
  | some length =>
    match t.instant.shift? (n * length) with
    | some i => .ok (z.localize i)
    | none => .error (.overflow n u)
  | none =>
    let start := (z.localize t.instant).wall
    if !start.isValid then .error .crash
    else
      match u.wallAdd? start n with
      | some wall => z.ofWall wall
      | none => .error (.overflow n u)

/-- The last millisecond of the unit that an instant lies in. -/
def ceil (u : DateUnit) (t : ZonedTime) (z : Zone) : Except DateError ZonedTime :=
  match u.floor t z with
  | .error e => .error e
  | .ok start =>
    match u.add start 1 z with
    | .error e => .error e
    | .ok next => .ok { next with instant := next.instant.previousMilli }

end Sift.DateUnit
