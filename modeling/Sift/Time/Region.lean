import Sift.Time.Instant

/-!
# Clocks of regions

The clocks of a region keep one distance from UTC until they are changed to another one. A region
is the distance at first and the list of changes; changes that come back every year are expanded
from their rule.

## Main definitions

* `Sift.Region`: regions.
* `Sift.Region.offsetAt`: the distance from UTC at an instant.
* `Sift.Region.offsetOfWall?`: the distance from UTC when the clocks show a time.
* `Sift.YearlyChange`: changes on a Sunday of every year.
-/

set_option autoImplicit false

namespace Sift

/-- The clocks of a region. -/
structure Region where
  /-- The name of the region. -/
  id : String
  /-- The seconds by which clocks are ahead of UTC at first. -/
  initial : Int
  /-- Instants with the seconds by which clocks are ahead from then on. -/
  changes : List (Int × Int)
  /-- The changes come one after another. -/
  ordered : ∀ c ∈ changes.zip changes.tail, c.1.1 < c.2.1 := by decide +kernel
  /-- Clocks are always less than a day ahead of UTC or behind it. -/
  moderate : ∀ offset ∈ initial :: changes.map Prod.snd, -86400 < offset ∧ offset < 86400 := by
    decide +kernel
deriving DecidableEq

namespace Region

/-- The offset at an instant, from the offset so far and the changes to come. -/
def offsetFrom (offset : Int) : List (Int × Int) → Int → Int
  | [], _ => offset
  | (change, next) :: rest, seconds =>
    if seconds < change then offset else offsetFrom next rest seconds

/-- The seconds by which clocks are ahead of UTC at an instant. -/
def offsetAt (r : Region) (t : Instant) : Int := offsetFrom r.initial r.changes t.seconds

/-- The first offset under which clocks show a time, from the instant of the last change, if
there was one, the offset since then and the changes to come. -/
def firstOffset? (since : Option Int) (offset : Int) : List (Int × Int) → Int → Option Int
  | [], wall =>
    match since with
    | some start => if start + offset ≤ wall then some offset else none
    | none => some offset
  | (change, next) :: rest, wall =>
    let begun := match since with
      | some start => decide (start + offset ≤ wall)
      | none => true
    if begun && decide (wall < change + offset) then some offset
    else firstOffset? (some change) next rest wall

/-- The seconds by which clocks are ahead of UTC when they show a time, for the first time if
they show it twice, and nothing if they skip it. -/
def offsetOfWall? (r : Region) (t : WallTime) : Option Int :=
  firstOffset? none r.initial r.changes t.seconds

end Region

/-- A change of clocks on a Sunday of every year. -/
structure YearlyChange where
  /-- The month. -/
  month : Int
  /-- Which Sunday of the month it is; the fifth one stands for the last one. -/
  sunday : Int
  /-- The second of the day on the clocks before the change. -/
  second : Int
  /-- The offset before the change. -/
  before : Int
  /-- The offset after the change. -/
  after : Int

namespace YearlyChange

/-- The last year for which changes are foreseen. -/
def lastYear : Int := 2099

/-- The number of the day of a change. -/
def day (c : YearlyChange) (year : Int) : Int :=
  let first := Date.dayNumber ⟨year, c.month, 1⟩
  let firstSunday := first + (6 - Date.daysFromMonday first)
  let n := firstSunday + 7 * (c.sunday - 1)
  if n < first + Date.daysInMonth year c.month then n else n - 7

/-- A change in some year. -/
def inYear (c : YearlyChange) (year : Int) : Int × Int :=
  (c.day year * secondsPerDay + c.second - c.before, c.after)

/-- The changes of all years from the given one. -/
def expand (year : Int) (yearly : List YearlyChange) : List (Int × Int) :=
  (List.range (lastYear + 1 - year).toNat).flatMap fun (i : Nat) =>
    yearly.map fun c => c.inYear (year + i)

end YearlyChange

end Sift
