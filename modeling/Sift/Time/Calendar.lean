/-!
# The calendar

Days are counted from 1970-01-01 in the Gregorian calendar, continued without end into the past
and the future. A year is reckoned from its first of March here, which puts the leap day at its
end: the days before a month then follow from the number of the month alone.

## Main definitions

* `Sift.Date`: a year, a month and a day.
* `Sift.Date.dayNumber`, `Sift.Date.ofDayNumber`: the two ways of naming a day.
* `Sift.Date.addMonths`: the same day of another month.
-/

set_option autoImplicit false

namespace Sift

/-- A day of the calendar. -/
structure Date where
  /-- The year, where year 0 is the one before year 1. -/
  year : Int
  /-- The month, from 1. -/
  month : Int
  /-- The day of the month, from 1. -/
  day : Int
deriving DecidableEq, Repr

namespace Date

/-- Whether a year has a leap day. -/
def isLeapYear (year : Int) : Bool := year % 4 = 0 && (year % 100 ≠ 0 || year % 400 = 0)

/-- The number of days of a month. -/
def daysInMonth (year month : Int) : Int :=
  if month = 2 then if isLeapYear year then 29 else 28
  else if month = 4 ∨ month = 6 ∨ month = 9 ∨ month = 11 then 30
  else 31

/-- The first year of the calendar's range. -/
def minYear : Int := -262143

/-- The last year of the calendar's range. -/
def maxYear : Int := 262142

/-- Whether there is such a day, in a year within the range. -/
def isValid (d : Date) : Bool :=
  minYear ≤ d.year && d.year ≤ maxYear && 1 ≤ d.month && d.month ≤ 12 && 1 ≤ d.day &&
    d.day ≤ daysInMonth d.year d.month

/-- The days from 0000-03-01 to the first of March of a year. -/
def daysBeforeYear (year : Int) : Int := 365 * year + year / 4 - year / 100 + year / 400

/-- The days from the first of March to the first day of a month, counted from March as 0. -/
def daysBeforeMonth (month : Int) : Int := (153 * month + 2) / 5

/-- The days from 0000-03-01 to 1970-01-01. -/
def epoch : Int := 719468

/-- The days from 1970-01-01 to a day. -/
def dayNumber (d : Date) : Int :=
  let year := if d.month ≤ 2 then d.year - 1 else d.year
  let month := if d.month ≤ 2 then d.month + 9 else d.month - 3
  daysBeforeYear year + daysBeforeMonth month + d.day - 1 - epoch

/-- The day with a number. -/
def ofDayNumber (n : Int) : Date :=
  let days := n + epoch
  let cycle := days / 146097
  let dayOfCycle := days % 146097
  let yearOfCycle :=
    (dayOfCycle - dayOfCycle / 1460 + dayOfCycle / 36524 - dayOfCycle / 146096) / 365
  let dayOfYear := dayOfCycle - (365 * yearOfCycle + yearOfCycle / 4 - yearOfCycle / 100)
  let month := (5 * dayOfYear + 2) / 153
  let year := yearOfCycle + cycle * 400
  { year := if month < 10 then year else year + 1
    month := if month < 10 then month + 3 else month - 9
    day := dayOfYear - daysBeforeMonth month + 1 }

/-- The days since the last Monday. -/
def daysFromMonday (n : Int) : Int := (n + 3) % 7

/-- The months from the first month of year 0. -/
def monthIndex (d : Date) : Int := d.year * 12 + (d.month - 1)

/-- A day of the month with an index, the last one where the month is shorter. -/
def ofMonthIndex (index day : Int) : Date :=
  let year := index / 12
  let month := index % 12 + 1
  ⟨year, month, min day (daysInMonth year month)⟩

/-- The same day some months later, the last day of the month where it is shorter. -/
def addMonths (d : Date) (n : Int) : Date := ofMonthIndex (d.monthIndex + n) d.day

/-- The first day of the month. -/
def startOfMonth (d : Date) : Date := { d with day := 1 }

/-- The first day of the year. -/
def startOfYear (d : Date) : Date := { d with month := 1, day := 1 }

/-- The number of a day within its year, from 1. -/
def dayOfYear (d : Date) : Int := d.dayNumber - d.startOfYear.dayNumber + 1

/-- Decimal digits of a natural number, filled up with zeros to a width. -/
def padded (width n : Nat) : String :=
  let digits := Nat.toDigits 10 n
  String.ofList (List.replicate (width - digits.length) '0' ++ digits)

/-- The text of a year: at least four digits, with a sign outside of 0 to 9999. -/
def yearText (year : Int) : String :=
  (if year < 0 then "-" else if 9999 < year then "+" else "") ++ padded 4 year.natAbs

/-- The text of a day: year, month and day of the month. -/
def toText (d : Date) : String :=
  yearText d.year ++ "-" ++ padded 2 d.month.toNat ++ "-" ++ padded 2 d.day.toNat

end Date

end Sift
