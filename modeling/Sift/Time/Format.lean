import Sift.Time.Zone

/-!
# Written times

A format is a text in which directives stand for parts of a time. A directive is a percent sign
and a name of one or more characters; a mark between them changes how a number is filled up.

## Main definitions

* `Sift.FormatItem`: what a format is made of.
* `Sift.FormatItem.ofPattern?`: the items of a format.
* `Sift.ZonedTime.format?`: a time in a format.
-/

set_option autoImplicit false

namespace Sift

/-- How a number is filled up to its width. -/
inductive Padding where
  /-- Not at all. -/
  | bare
  /-- With zeros after the sign. -/
  | zeros
  /-- With blanks before the sign. -/
  | blanks
deriving DecidableEq, Repr

/-- The numbers that a format can show. -/
inductive TimeNumber where
  | year
  | century
  | yearOfCentury
  | weekYear
  | weekYearOfCentury
  | quarter
  | month
  | day
  | weekFromSunday
  | weekFromMonday
  | week
  | dayFromSunday
  | dayFromMonday
  | dayOfYear
  | hour
  | halfDayHour
  | minute
  | second
  | nanosecond
  | timestamp
deriving DecidableEq, Repr

/-- How a distance from UTC is written. -/
inductive OffsetStyle where
  /-- Hours and minutes. -/
  | plain
  /-- Hours and minutes with a colon. -/
  | minutes
  /-- Hours, minutes and seconds with colons. -/
  | seconds
  /-- Hours. -/
  | hours
  /-- Hours, minutes and whatever seconds there are, with colons. -/
  | exact
deriving DecidableEq, Repr

/-- A part of a format. -/
inductive FormatItem where
  /-- A character that stands for itself. -/
  | char (c : Char)
  /-- A number. -/
  | number (n : TimeNumber) (padding : Padding)
  /-- The name of the day of the week, in full or its first three letters. -/
  | weekdayName (full : Bool)
  /-- The name of the month, in full or its first three letters. -/
  | monthName (full : Bool)
  /-- The half of the day. -/
  | halfDay (upperCase : Bool)
  /-- The fraction of the second in so many digits, with or without a point. -/
  | fraction (digits : Nat) (point : Bool)
  /-- The fraction of the second in as many digits as it needs. -/
  | shortFraction
  /-- The distance from UTC. -/
  | offset (style : OffsetStyle)
  /-- Date, time of day and distance from UTC in the notation for the internet. -/
  | timestampText
deriving DecidableEq, Repr

namespace FormatItem

/-! ## Reading formats -/

/-- Hour, minute and second. -/
def clock : List FormatItem :=
  [.number .hour .zeros, .char ':', .number .minute .zeros, .char ':', .number .second .zeros]

/-- Month, day and the last two digits of the year. -/
def shortDate : List FormatItem :=
  [.number .month .zeros, .char '/', .number .day .zeros, .char '/',
    .number .yearOfCentury .zeros]

/-- The names of directives and what they stand for. -/
def directives : List (String × List FormatItem) :=
  [("A", [.weekdayName true]), ("B", [.monthName true]), ("C", [.number .century .zeros]),
    ("D", shortDate),
    ("F", [.number .year .zeros, .char '-', .number .month .zeros, .char '-',
      .number .day .zeros]),
    ("G", [.number .weekYear .zeros]), ("H", [.number .hour .zeros]),
    ("I", [.number .halfDayHour .zeros]), ("M", [.number .minute .zeros]),
    ("P", [.halfDay false]), ("R", [.number .hour .zeros, .char ':', .number .minute .zeros]),
    ("S", [.number .second .zeros]), ("T", clock), ("U", [.number .weekFromSunday .zeros]),
    ("V", [.number .week .zeros]), ("W", [.number .weekFromMonday .zeros]), ("X", clock),
    ("Y", [.number .year .zeros]), ("Z", [.offset .exact]), ("a", [.weekdayName false]),
    ("b", [.monthName false]),
    ("c", [.weekdayName false, .char ' ', .monthName false, .char ' ', .number .day .blanks,
      .char ' '] ++ clock ++ [.char ' ', .number .year .zeros]),
    ("d", [.number .day .zeros]), ("e", [.number .day .blanks]),
    ("f", [.number .nanosecond .zeros]), ("g", [.number .weekYearOfCentury .zeros]),
    ("h", [.monthName false]), ("j", [.number .dayOfYear .zeros]),
    ("k", [.number .hour .blanks]), ("l", [.number .halfDayHour .blanks]),
    ("m", [.number .month .zeros]), ("n", [.char '\n']), ("p", [.halfDay true]),
    ("q", [.number .quarter .bare]),
    ("r", [.number .halfDayHour .zeros, .char ':', .number .minute .zeros, .char ':',
      .number .second .zeros, .char ' ', .halfDay true]),
    ("s", [.number .timestamp .bare]), ("t", [.char '\t']),
    ("u", [.number .dayFromMonday .bare]),
    ("v", [.number .day .blanks, .char '-', .monthName false, .char '-', .number .year .zeros]),
    ("w", [.number .dayFromSunday .bare]), ("x", shortDate),
    ("y", [.number .yearOfCentury .zeros]), ("z", [.offset .plain]), ("+", [.timestampText]),
    (":z", [.offset .minutes]), ("::z", [.offset .seconds]), (":::z", [.offset .hours]),
    (".f", [.shortFraction]), (".3f", [.fraction 3 true]), (".6f", [.fraction 6 true]),
    (".9f", [.fraction 9 true]), ("3f", [.fraction 3 false]), ("6f", [.fraction 6 false]),
    ("9f", [.fraction 9 false]), ("%", [.char '%'])]

/-- The padding that a mark asks for. -/
def padding? : Char → Option Padding
  | '-' => some .bare
  | '0' => some .zeros
  | '_' => some .blanks
  | _ => none

/-- The items of a directive that is a single number, with another padding. -/
def repad (p : Padding) : List FormatItem → Option (List FormatItem)
  | [number n _] => some [number n p]
  | _ => none

/-- The items of a directive, whose name may follow a mark. -/
def ofDirective? (name : List Char) : Option (List FormatItem) :=
  let look (cs : List Char) := (directives.find? fun e => e.1.toList = cs).map Prod.snd
  match name with
  | c :: rest =>
    match padding? c with
    | some p => (look rest).bind (repad p)
    | none => look name
  | [] => none

/-- Whether more characters can make a name complete. -/
def isUnfinished (name : List Char) : Bool :=
  let opens (cs : List Char) := directives.any fun e => cs.isPrefixOf e.1.toList
  match name with
  | c :: rest => if (padding? c).isSome then opens rest else opens name
  | [] => true

/-- The items of a format. The characters of an unfinished directive after its percent sign are in
`name`. -/
def scan (name : Option (List Char)) : List Char → Option (List FormatItem)
  | [] => if name.isNone then some [] else none
  | c :: rest =>
    match name with
    | none => if c = '%' then scan (some []) rest else (scan none rest).map (char c :: ·)
    | some name =>
      let name := name ++ [c]
      match ofDirective? name with
      | some items => (scan none rest).map (items ++ ·)
      | none => if isUnfinished name then scan (some name) rest else none

/-- The items of a format, if all its directives exist. -/
def ofPattern? (pattern : String) : Option (List FormatItem) := scan none pattern.toList

/-! ## Writing times -/

/-- The names of the months. -/
def monthNames : List String :=
  ["January", "February", "March", "April", "May", "June", "July", "August", "September",
    "October", "November", "December"]

/-- The names of the days of the week. -/
def weekdayNames : List String :=
  ["Monday", "Tuesday", "Wednesday", "Thursday", "Friday", "Saturday", "Sunday"]

/-- A name in full or its first three letters. -/
def nameText (full : Bool) (names : List String) (index : Int) : String :=
  let name := names[index.toNat]?.getD ""
  if full then name else String.ofList (name.toList.take 3)

/-- A number with a sign, filled up to a width. -/
def lay (p : Padding) (width : Nat) (sign : String) (n : Nat) : String :=
  let digits := Nat.toDigits 10 n
  let missing := width - sign.length - digits.length
  match p with
  | .bare => sign ++ String.ofList digits
  | .zeros => sign ++ String.ofList (List.replicate missing '0' ++ digits)
  | .blanks => String.ofList (List.replicate missing ' ') ++ sign ++ String.ofList digits

/-- A number of two places. A tens place above nine is shown by the character so many places after
the digit zero. -/
def layTwo (p : Padding) (n : Nat) : String :=
  let unit := String.ofList (Nat.toDigits 10 (n % 10))
  if n / 10 = 0 ∧ p = .bare then unit
  else if n / 10 = 0 ∧ p = .blanks then " " ++ unit
  else String.ofList [Char.ofNat ('0'.toNat + n / 10)] ++ unit

/-- A year, which has a sign outside of 0 to 9999. -/
def layYear (p : Padding) (year : Int) : String :=
  if 0 ≤ year ∧ year ≤ 9999 then lay p 4 "" year.natAbs
  else lay p 5 (if year < 0 then "-" else "+") year.natAbs

/-- The year and the number of the week that a day lies in. A week belongs to the year of its
Thursday. -/
def weekOf (day : Int) : Int × Int :=
  let thursday := Date.ofDayNumber (day - Date.daysFromMonday day + 3)
  (thursday.year, (thursday.dayOfYear - 1) / 7 + 1)

/-- A number of a time. The century is shown by its remainder on division by 256. -/
def numberText (t : ZonedTime) (p : Padding) : TimeNumber → String
  | .year => layYear p t.wall.date.year
  | .century => layTwo p (t.wall.date.year / 100 % 256).toNat
  | .yearOfCentury => layTwo p (t.wall.date.year % 100).toNat
  | .weekYear => layYear p (weekOf t.wall.day).1
  | .weekYearOfCentury => layTwo p ((weekOf t.wall.day).1 % 100).toNat
  | .quarter => lay .bare 1 "" ((t.wall.date.month - 1) / 3 + 1).toNat
  | .month => layTwo p t.wall.date.month.toNat
  | .day => layTwo p t.wall.date.day.toNat
  | .weekFromSunday =>
    layTwo p ((t.wall.date.dayOfYear - (Date.daysFromMonday t.wall.day + 1) % 7 + 6) / 7).toNat
  | .weekFromMonday =>
    layTwo p ((t.wall.date.dayOfYear - Date.daysFromMonday t.wall.day + 6) / 7).toNat
  | .week => layTwo p (weekOf t.wall.day).2.toNat
  | .dayFromSunday => lay .bare 1 "" ((Date.daysFromMonday t.wall.day + 1) % 7).toNat
  | .dayFromMonday => lay .bare 1 "" (Date.daysFromMonday t.wall.day + 1).toNat
  | .dayOfYear => lay p 3 "" t.wall.date.dayOfYear.toNat
  | .hour => layTwo p t.wall.hour.toNat
  | .halfDayHour => layTwo p ((t.wall.hour + 11) % 12 + 1).toNat
  | .minute => layTwo p t.wall.minute.toNat
  | .second => layTwo p (t.wall.second.toNat + t.wall.nanos / nanosPerSecond)
  | .nanosecond => lay p 9 "" (t.wall.nanos % nanosPerSecond)
  | .timestamp =>
    lay p 9 (if t.instant.seconds < 0 then "-" else "") t.instant.seconds.natAbs

/-- A distance from UTC. Where seconds are not shown, the distance is rounded to minutes, unless
hours alone are shown. -/
def offsetIn (style : OffsetStyle) (offset : Int) : String :=
  let sign := if offset < 0 then "-" else "+"
  let n := offset.natAbs
  let minutes := (n + 30) / 60
  match style with
  | .plain => sign ++ Date.padded 2 (minutes / 60) ++ Date.padded 2 (minutes % 60)
  | .minutes => sign ++ Date.padded 2 (minutes / 60) ++ ":" ++ Date.padded 2 (minutes % 60)
  | .seconds =>
    sign ++ Date.padded 2 (n / 3600) ++ ":" ++ Date.padded 2 (n / 60 % 60) ++ ":" ++
      Date.padded 2 (n % 60)
  | .hours => sign ++ Date.padded 2 (n / 3600)
  | .exact => offsetText offset

/-- The text of an item for a time. -/
def text (t : ZonedTime) : FormatItem → String
  | char c => String.ofList [c]
  | number n p => numberText t p n
  | weekdayName full => nameText full weekdayNames (Date.daysFromMonday t.wall.day)
  | monthName full => nameText full monthNames (t.wall.date.month - 1)
  | halfDay upperCase =>
    if t.wall.hour < 12 then if upperCase then "AM" else "am"
    else if upperCase then "PM" else "pm"
  | fraction digits point =>
    (if point then "." else "") ++
      Date.padded digits (t.wall.nanos % nanosPerSecond / Nat.pow 10 (9 - digits))
  | shortFraction => WallTime.fractionText (t.wall.nanos % nanosPerSecond)
  | offset style => offsetIn style t.offset
  | timestampText =>
    t.wall.date.toText ++ "T" ++ t.wall.clockText ++ offsetIn .minutes t.offset

end FormatItem

/-- A time in a format, if all directives of the format exist. -/
def ZonedTime.format? (t : ZonedTime) (pattern : String) : Option String :=
  (FormatItem.ofPattern? pattern).map fun items =>
    String.join (items.map (FormatItem.text t))

end Sift
