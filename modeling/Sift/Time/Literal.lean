import Sift.Time.Unit

/-!
# Dates as they are written

A date is written as a year, as milliseconds since the start of 1970, with an offset from UTC, or
as a wall-clock time down to some unit. The fields of wall-clock times may have fewer digits than
usual and blanks in front of them, and their years a sign.

## Main definitions

* `Sift.DateLiteral`: what a written date says.
* `Sift.DateLiteral.parse?`: the date that a text writes.
* `Sift.DateLiteral.resolve`: its first instant in a zone.
-/

set_option autoImplicit false

namespace Sift

/-- A written date. -/
inductive DateLiteral where
  /-- A point in time that needs no zone. -/
  | instant (t : Instant)
  /-- A time on the wall, with the unit down to which it was written. -/
  | wall (t : WallTime) (precision : Option DateUnit)
deriving DecidableEq, Repr

namespace DateLiteral

/-! ## Fields -/

/-- A number of at least `least` and at most `most` digits, and what follows it. -/
def digits? (least most : Nat) (cs : List Char) : Option (Nat × List Char) :=
  let ds := (cs.take most).takeWhile Numeral.isDigit
  if ds.length < least ∨ ds.isEmpty then none
  else some (Numeral.ofDigits ds, cs.drop ds.length)

/-- A field of one or two digits, behind blanks. -/
def field? (cs : List Char) : Option (Nat × List Char) := digits? 1 2 (cs.dropWhile isBlank)

/-- A year, behind blanks: up to four digits, or any number of them behind a sign. -/
def year? (cs : List Char) : Option (Int × List Char) :=
  match cs.dropWhile isBlank with
  | '-' :: rest => (digits? 1 rest.length rest).map fun (n, rest) => (-(n : Int), rest)
  | '+' :: rest => (digits? 1 rest.length rest).map fun (n, rest) => ((n : Int), rest)
  | cs => (digits? 1 4 cs).map fun (n, rest) => ((n : Int), rest)

/-- What follows a character. -/
def char? (c : Char) : List Char → Option (List Char)
  | [] => none
  | d :: rest => if d = c then some rest else none

/-- A day of the calendar. -/
def validDate? (d : Date) : Option Date := if d.isValid then some d else none

/-- A date, and what follows it. -/
def date? (cs : List Char) : Option (Date × List Char) := do
  let (y, cs) ← year? cs
  let cs ← char? '-' cs
  let (m, cs) ← field? cs
  let cs ← char? '-' cs
  let (d, cs) ← field? cs
  let date ← validDate? ⟨y, m, d⟩
  return (date, cs)

/-- A fraction of a second in nanoseconds: nothing, or a point and digits, of which those after
the ninth are ignored. -/
def fraction? : List Char → Option (Nat × List Char)
  | '.' :: rest =>
    let ds := rest.takeWhile Numeral.isDigit
    if ds.isEmpty then none
    else
      let kept := ds.take 9
      some (Numeral.ofDigits kept * Nat.pow 10 (9 - kept.length), rest.dropWhile Numeral.isDigit)
  | cs => some (0, cs)

/-- The time of a date, an hour, a minute, a second and nanoseconds, if there is such a time of
day. The second 60 is a leap second. -/
def wallTime? (d : Date) (h m s nanos : Nat) : Option WallTime :=
  if h ≤ 23 ∧ m ≤ 59 ∧ s ≤ 60 then
    let base := d.dayNumber * secondsPerDay + h * 3600 + m * 60
    if s = 60 then some ⟨base + 59, nanos + nanosPerSecond⟩ else some ⟨base + s, nanos⟩
  else none

/-! ## Forms -/

/-- How a wall-clock time is written after its date. -/
structure WallForm where
  /-- Whether a letter separates date and time; else blanks may. -/
  letter : Bool
  /-- Whether there are seconds. -/
  seconds : Bool
  /-- Whether a fraction may follow. -/
  fraction : Bool

/-- The forms of wall-clock times. -/
def wallForms : List WallForm :=
  [⟨true, true, true⟩, ⟨false, true, false⟩, ⟨true, false, false⟩, ⟨false, false, false⟩]

/-- A wall-clock time in a form; nothing may follow it. -/
def ofForm? (form : WallForm) (cs : List Char) : Option WallTime := do
  let (d, cs) ← date? cs
  let cs ← if form.letter then char? 'T' cs else some (cs.dropWhile isBlank)
  let (h, cs) ← field? cs
  let cs ← char? ':' cs
  let (m, cs) ← field? cs
  let (s, cs) ← if form.seconds then (char? ':' cs).bind field? else some (0, cs)
  let (nanos, cs) ← if form.fraction then fraction? cs else some (0, cs)
  if cs.isEmpty then wallTime? d h m s nanos else none

/-- The unit down to which a form writes a time. A fraction goes below all units. -/
def WallForm.precision (form : WallForm) (cs : List Char) : Option DateUnit :=
  if !form.seconds then some .minute
  else if form.fraction && cs.contains '.' then none
  else some .second

/-- A wall-clock time. -/
def wallTimeForm? (cs : List Char) : Option DateLiteral :=
  wallForms.findSome? fun form => (ofForm? form cs).map fun t => wall t (form.precision cs)

/-- A whole day. -/
def dayForm? (cs : List Char) : Option DateLiteral :=
  match date? cs with
  | some (d, []) => some (wall (.ofDate d) (some .day))
  | _ => none

/-- A month: four characters for the year and two for the month. -/
def monthForm? (cs : List Char) : Option DateLiteral := do
  let (year, month) ← Text.splitOnce ['-'] cs
  if year.length = 4 ∧ month.length = 2 then
    let y ← Numeral.int32? year
    let m ← Numeral.nat? (UInt32.size - 1) month
    let d ← validDate? ⟨y, m, 1⟩
    return wall (.ofDate d) (some .month)
  else none

/-- Two digits up to a limit. -/
def twoDigits? (limit : Nat) (cs : List Char) : Option (Nat × List Char) := do
  let (n, cs) ← digits? 2 2 cs
  if n ≤ limit then some (n, cs) else none

/-- The seconds by which a clock is ahead of UTC, as a letter or as a sign, hours and minutes. -/
def offset? : List Char → Option Int
  | [] => none
  | sign :: rest =>
    if sign = 'Z' ∨ sign = 'z' then if rest.isEmpty then some 0 else none
    else if sign = '+' ∨ sign = '-' ∨ sign = '\u2212' then do
      let (h, cs) ← twoDigits? 23 rest
      let cs ← char? ':' cs
      let (m, cs) ← twoDigits? 59 cs
      let n : Int := (h * 3600 + m * 60 : Nat)
      if cs.isEmpty then some (if sign = '+' then n else -n) else none
    else none

/-- A time with an offset: all fields of full width, a letter of either case or a blank between
date and time, seconds, and perhaps a fraction. -/
def offsetForm? (cs : List Char) : Option DateLiteral := do
  let (y, cs) ← digits? 4 4 cs
  let cs ← char? '-' cs
  let (mo, cs) ← digits? 2 2 cs
  let cs ← char? '-' cs
  let (d, cs) ← digits? 2 2 cs
  let date ← validDate? ⟨y, mo, d⟩
  let cs ← match cs with
    | c :: cs => if c = 'T' ∨ c = 't' ∨ c = ' ' then some cs else none
    | [] => none
  let (h, cs) ← digits? 2 2 cs
  let cs ← char? ':' cs
  let (m, cs) ← digits? 2 2 cs
  let cs ← char? ':' cs
  let (s, cs) ← digits? 2 2 cs
  let (nanos, cs) ← fraction? cs
  let offset ← offset? cs
  let t ← wallTime? date h m s nanos
  (t.instant? offset).map instant

/-- A year of four characters, or milliseconds. -/
def numberForm? (cs : List Char) : Option DateLiteral :=
  if cs.length = 4 then do
    let y ← Numeral.int32? cs
    let d ← validDate? ⟨y, 1, 1⟩
    return wall (.ofDate d) (some .year)
  else do
    let n ← Numeral.int64? cs
    let t ← Instant.ofMillis? n.toInt
    return instant t

/-- Whether there are only digits, after any number of minus signs. -/
def isNumber (cs : List Char) : Bool :=
  !cs.isEmpty && (cs.dropWhile fun c => c = '-').all Numeral.isDigit

/-- The date that a text writes. -/
def parse? (cs : List Char) : Option DateLiteral :=
  if isNumber cs then numberForm? cs
  else
    [offsetForm?, wallTimeForm?, dayForm?, monthForm?].findSome? fun form => form cs

/-- The first instant of a written date, and the unit down to which it was written. -/
def resolve (z : Zone) : DateLiteral → Except DateError (ZonedTime × Option DateUnit)
  | instant t => .ok (z.localize t, none)
  | wall t precision =>
    match z.ofWall t with
    | .error e => .error e
    | .ok zt => .ok (zt, precision)

/-- The first instant that a text writes in a zone, and the unit down to which it is written. -/
def read (z : Zone) (text : String) : Except DateError (ZonedTime × Option DateUnit) :=
  let cs := Text.trimChars text.toList
  match parse? cs with
  | some l => l.resolve z
  | none => .error (.unrecognized (String.ofList cs))

end DateLiteral

end Sift
