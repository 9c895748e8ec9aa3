import Sift.Time.Calendar

/-!
# Points in time

A point in time is a number of seconds and a fraction of a second. Instants count from the start
of 1970 in UTC, wall-clock times from the start of 1970 on the clock at hand; both reach as far as
the calendar. A fraction of a whole second or more marks a leap second, which follows the second
that it is counted to.

## Main definitions

* `Sift.Instant`: points in time everywhere.
* `Sift.WallTime`: what a clock on the wall shows.
* `Sift.WallTime.shift`: the time some seconds later.
-/

set_option autoImplicit false

namespace Sift

/-- A point in time, the same everywhere. -/
structure Instant where
  /-- Seconds since 1970-01-01T00:00:00Z, rounded down. -/
  seconds : Int
  /-- Nanoseconds since then. -/
  nanos : Nat
deriving DecidableEq, Repr

/-- The time on some clock. -/
structure WallTime where
  /-- Seconds since 1970-01-01T00:00:00 on the clock, rounded down. -/
  seconds : Int
  /-- Nanoseconds since then. -/
  nanos : Nat
deriving DecidableEq, Repr

/-- The seconds of a day. -/
def secondsPerDay : Int := 86400

/-- The nanoseconds of a second. -/
def nanosPerSecond : Nat := 1000000000

/-- The first second of the calendar's range. -/
def minSeconds : Int := -8334601228800

/-- The last second of the calendar's range. -/
def maxSeconds : Int := 8210266876799

/-- Whether a number of seconds is in the calendar's range. -/
def inRange (seconds : Int) : Bool := minSeconds ≤ seconds && seconds ≤ maxSeconds

example : minSeconds = (Date.dayNumber ⟨Date.minYear, 1, 1⟩) * secondsPerDay ∧
    maxSeconds = (Date.dayNumber ⟨Date.maxYear, 12, 31⟩ + 1) * secondsPerDay - 1 := by decide

namespace Instant

/-- The instant some milliseconds after the start of 1970, if it is in range. -/
def ofMillis? (millis : Int) : Option Instant :=
  if inRange (millis / 1000) then some ⟨millis / 1000, (millis % 1000).toNat * 1000000⟩ else none

/-- Milliseconds since the start of 1970, rounded down. -/
def millis (t : Instant) : Int := t.seconds * 1000 + t.nanos / 1000000

/-- The first instant of the calendar's range. -/
def earliest : Instant := ⟨minSeconds, 0⟩

/-- The order of instants. -/
def order (t u : Instant) : Ordering := (compare t.seconds u.seconds).then (compare t.nanos u.nanos)

/-- The time on a clock that is ahead of UTC by some seconds. -/
def wallTime (t : Instant) (offset : Int) : WallTime := ⟨t.seconds + offset, t.nanos⟩

end Instant

namespace WallTime

/-- The number of the day. -/
def day (t : WallTime) : Int := t.seconds / secondsPerDay

/-- The second of the day. -/
def secondOfDay (t : WallTime) : Int := t.seconds % secondsPerDay

/-- The date. -/
def date (t : WallTime) : Date := Date.ofDayNumber t.day

/-- The start of a day. -/
def ofDay (day : Int) : WallTime := ⟨day * secondsPerDay, 0⟩

/-- The start of a date. -/
def ofDate (d : Date) : WallTime := ofDay d.dayNumber

/-- The hour of the day. -/
def hour (t : WallTime) : Int := t.secondOfDay / 3600

/-- The minute of the hour. -/
def minute (t : WallTime) : Int := t.secondOfDay / 60 % 60

/-- The second of the minute. -/
def second (t : WallTime) : Int := t.secondOfDay % 60

/-- Whether the time is in the calendar's range. -/
def isValid (t : WallTime) : Bool := inRange t.seconds

/-- The instant at which a clock ahead of UTC by some seconds shows the time, if it is in
range. -/
def instant? (t : WallTime) (offset : Int) : Option Instant :=
  if inRange (t.seconds - offset) then some ⟨t.seconds - offset, t.nanos⟩ else none

end WallTime

/-- Seconds and nanoseconds some seconds later. Leaving a leap second behind costs or gains the
second that it lasted. -/
def shiftSeconds (seconds : Int) (nanos : Nat) (n : Int) : Int × Nat :=
  if nanosPerSecond ≤ nanos then
    if 0 < n then (seconds + n, nanos - nanosPerSecond)
    else if n < 0 then (seconds + 1 + n, nanos - nanosPerSecond)
    else (seconds, nanos)
  else (seconds + n, nanos)

namespace Instant

/-- The instant some seconds later, if it is in range. -/
def shift? (t : Instant) (n : Int) : Option Instant :=
  let (s, nanos) := shiftSeconds t.seconds t.nanos n
  if inRange s then some ⟨s, nanos⟩ else none

/-- The instant a millisecond earlier. -/
def previousMilli (t : Instant) : Instant :=
  if 1000000 ≤ t.nanos then ⟨t.seconds, t.nanos - 1000000⟩
  else ⟨t.seconds - 1, t.nanos + nanosPerSecond - 1000000⟩

end Instant

namespace WallTime

/-- The time some seconds later, if it is in range. -/
def shift? (t : WallTime) (n : Int) : Option WallTime :=
  let (s, nanos) := shiftSeconds t.seconds t.nanos n
  if inRange s then some ⟨s, nanos⟩ else none

/-- The same time of day some months later, if it is in range. -/
def addMonths? (t : WallTime) (n : Int) : Option WallTime :=
  let d := t.date.addMonths n
  if d.isValid then some ⟨d.dayNumber * secondsPerDay + t.secondOfDay, t.nanos⟩ else none

/-- The fraction of a second as text: nothing for none, else the least of three, six or nine
digits that is exact. -/
def fractionText (nanos : Nat) : String :=
  if nanos = 0 then ""
  else if nanos % 1000000 = 0 then "." ++ Date.padded 3 (nanos / 1000000)
  else if nanos % 1000 = 0 then "." ++ Date.padded 6 (nanos / 1000)
  else "." ++ Date.padded 9 nanos

/-- The text of a time of day, where a leap second is the sixtieth one. -/
def clockText (t : WallTime) : String :=
  let leap := nanosPerSecond ≤ t.nanos
  let second := t.second.toNat + if leap then 1 else 0
  let nanos := if leap then t.nanos - nanosPerSecond else t.nanos
  Date.padded 2 t.hour.toNat ++ ":" ++ Date.padded 2 t.minute.toNat ++ ":" ++
    Date.padded 2 second ++ fractionText nanos

/-- The text of a time: date and time of day. -/
def toText (t : WallTime) : String := t.date.toText ++ " " ++ t.clockText

end WallTime

namespace Instant

/-- The text of an instant: its date and time of day in UTC. -/
def toText (t : Instant) : String := (t.wallTime 0).toText ++ " UTC"

end Instant

/-- The text of a distance from UTC: a sign, hours and minutes, and seconds where there are
some. -/
def offsetText (offset : Int) : String :=
  let n := offset.natAbs
  (if offset < 0 then "-" else "+") ++ Date.padded 2 (n / 3600) ++ ":" ++
    Date.padded 2 (n / 60 % 60) ++ (if n % 60 = 0 then "" else ":" ++ Date.padded 2 (n % 60))

end Sift
