import Sift.Number.Word
import Sift.Time.Unit

/-!
# Intervals of time

An interval is a number of units, by which time is cut into buckets. Single units begin where the
calendar begins them. Several weeks are counted from the Monday before 1970, other units of fixed
length from the start of 1970 on the clocks of the zone, and months and years from the start of
year 0.

## Main definitions

* `Sift.Interval`: intervals.
* `Sift.Interval.parse`: the interval of a text.
* `Sift.Interval.bucketStart`: the start of the bucket of an instant.
-/

set_option autoImplicit false

namespace Sift

/-- Some units of time. -/
structure Interval where
  /-- How many units, at least one. -/
  count : Int64
  /-- The unit. -/
  unit : DateUnit
deriving DecidableEq

namespace Interval

/-- The intervals that have names. -/
def named : List (String × Interval) :=
  [("year", ⟨1, .year⟩), ("1y", ⟨1, .year⟩), ("quarter", ⟨3, .month⟩), ("1q", ⟨3, .month⟩),
    ("month", ⟨1, .month⟩), ("week", ⟨1, .week⟩), ("day", ⟨1, .day⟩), ("hour", ⟨1, .hour⟩),
    ("minute", ⟨1, .minute⟩), ("second", ⟨1, .second⟩)]

/-- An amount, one where there is none, and the symbol of a unit. -/
def ofSymbol? (cs : List Char) : Option Interval :=
  match cs.reverse with
  | [] => none
  | symbol :: amount =>
    match DateUnit.ofSymbol? symbol with
    | none => none
    | some u =>
      if amount.isEmpty then some ⟨1, u⟩
      else
        match Numeral.int64? amount.reverse with
        | some n => if 0 < n then some ⟨n, u⟩ else none
        | none => none

/-- The interval of a text: a name, or an amount and a unit. -/
def parse (text : String) : Except DateError Interval :=
  let text := Text.trim text
  match named.lookup text with
  | some i => .ok i
  | none =>
    match ofSymbol? text.toList with
    | some i => .ok i
    | none => .error (.invalidInterval text)

/-- The operation of a date expression that moves by the interval. -/
def step (i : Interval) : String := "+" ++ toString i.count.toInt ++ i.unit.symbol.toString

/-- How far buckets are moved from the start of 1970, in milliseconds. -/
def alignment (u : DateUnit) : Int := if u = .week then 3 * 86400000 else 0

/-- The length of several units in milliseconds, from the seconds of a unit. -/
def exactMillis (i : Interval) (seconds : Int) : Int := seconds * 1000 * i.count.toInt

/-- The start of the bucket of several units of fixed length that some milliseconds lie in, from the
seconds of a unit and the seconds by which clocks are ahead. All operations are on 64 bits; there is
no start if one has no result. -/
def startMillis? (i : Interval) (seconds offset millis : Int) : Option Int := do
  let length ← word? (i.exactMillis seconds)
  let ahead ← word? (offset * 1000)
  let wall ← word? (millis + ahead)
  let aligned ← word? (wall + alignment i.unit)
  let rest ← remainder? aligned length
  let start ← word? (aligned - rest)
  let shifted ← word? (start - alignment i.unit)
  word? (shifted - ahead)

/-- The length of several months or years in months, in 64 bits. -/
def lengthMonths? (i : Interval) : Option Int :=
  if i.unit = .year then word? (i.count.toInt * 12) else some i.count.toInt

/-- The first month of the bucket of several months that a date lies in, in 64 bits. -/
def firstMonth? (months : Int) (d : Date) : Option Int := do
  let january ← word? (d.year * 12)
  let index ← word? (january + (d.month - 1))
  let rest ← remainder? index months
  word? (index - rest)

/-- The start of the month with an index. -/
def ofMonthIndex (index : Int) (z : Zone) : Except DateError ZonedTime :=
  let year := index / 12
  let month := index % 12 + 1
  if year < Int32.minValue.toInt ∨ Int32.maxValue.toInt < year then .error .yearOutOfRange
  else if Date.isValid ⟨year, month, 1⟩ then z.ofWall (.ofDate ⟨year, month, 1⟩)
  else .error (.invalidBucketMonth year month)

/-- The start of the bucket of several months that a time lies in. -/
def monthStart (i : Interval) (t : ZonedTime) (z : Zone) : Except DateError ZonedTime :=
  match i.lengthMonths? with
  | none => .error .crash
  | some months =>
    match DateUnit.month.floor t z with
    | .error e => .error e
    | .ok floored =>
      match firstMonth? months floored.wall.date with
      | none => .error .crash
      | some first => ofMonthIndex first z

/-- The start of the bucket that an instant lies in. An operation without a result breaks the
computation off. -/
def bucketStart (i : Interval) (t : Instant) (z : Zone) : Except DateError Instant :=
  if i.count = 1 then (i.unit.floor (z.localize t) z).map ZonedTime.instant
  else
    match i.unit.seconds? with
    | some seconds =>
      match i.startMillis? seconds (z.offsetAt t) t.millis with
      | none => .error .crash
      | some start =>
        match Instant.ofMillis? start with
        | some s => .ok s
        | none => .error (.bucketOutOfRange t)
    | none => (i.monthStart (z.localize t) z).map ZonedTime.instant

end Interval

end Sift
