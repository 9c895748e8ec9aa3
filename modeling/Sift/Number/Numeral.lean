import Sift.Number.Floating

/-!
# Reading numerals

Numerals are read whole: a text either is a numeral of the wanted kind from its first to its last
character, or it is none. Integers are a sign and digits; floating-point numbers may have a
fraction and an exponent, or be one of the words for infinity and not-a-number.

## Main definitions

* `Sift.Numeral.digits?`, `Sift.Numeral.inRadix?`: a non-empty run of digits.
* `Sift.Numeral.int?`, `Sift.Numeral.nat?`: integers within bounds.
* `Sift.Numeral.floating?`: floating-point numbers.
-/

set_option autoImplicit false

namespace Sift.Numeral

/-- Whether a character is one of the ten ASCII digits. -/
def isDigit (c : Char) : Bool := '0' ≤ c && c ≤ '9'

/-- The value of an ASCII digit. -/
def digitValue (c : Char) : Nat := c.toNat - '0'.toNat

/-- The number written by a run of digits. -/
def ofDigits (cs : List Char) : Nat := cs.foldl (fun n c => n * 10 + digitValue c) 0

/-- The value of a digit in a radix of at most sixteen, where letters stand for the digits from
ten on. -/
def digitIn? (radix : Nat) (c : Char) : Option Nat :=
  let value :=
    if isDigit c then digitValue c
    else if 'a' ≤ c ∧ c ≤ 'f' then c.toNat - 'a'.toNat + 10
    else if 'A' ≤ c ∧ c ≤ 'F' then c.toNat - 'A'.toNat + 10
    else 16
  if value < radix then some value else none

/-- The number written by a non-empty run of digits in a radix. -/
def inRadix? (radix : Nat) (cs : List Char) : Option Nat :=
  if cs.isEmpty then none
  else cs.foldlM (fun n c => (digitIn? radix c).map fun d => n * radix + d) 0

/-- The number written by a non-empty run of digits. -/
def digits? (cs : List Char) : Option Nat :=
  if cs ≠ [] ∧ cs.all isDigit then some (ofDigits cs) else none

/-- Splits off a sign; a missing sign is positive. The first component says whether the sign
is a minus. -/
def splitSign : List Char → Bool × List Char
  | '-' :: rest => (true, rest)
  | '+' :: rest => (false, rest)
  | cs => (false, cs)

/-- An integer from `lo` to `hi`, with an optional sign. -/
def int? (lo hi : Int) (cs : List Char) : Option Int :=
  let (negative, rest) := splitSign cs
  match digits? rest with
  | none => none
  | some n =>
    let value : Int := if negative then -(n : Int) else n
    if lo ≤ value ∧ value ≤ hi then some value else none

/-- A natural number up to `hi`, with an optional plus sign. -/
def nat? (hi : Nat) (cs : List Char) : Option Nat :=
  let rest := match cs with
    | '+' :: rest => rest
    | _ => cs
  match digits? rest with
  | none => none
  | some n => if n ≤ hi then some n else none

/-- A 64-bit integer. -/
def int64? (cs : List Char) : Option Int64 :=
  (int? Int64.minValue.toInt Int64.maxValue.toInt cs).map Int64.ofInt

/-- A 32-bit integer. -/
def int32? (cs : List Char) : Option Int :=
  int? Int32.minValue.toInt Int32.maxValue.toInt cs

/-- The exponent part of a numeral: nothing, or the mark, an optional sign and digits. -/
def exponent? : List Char → Option Int
  | [] => some 0
  | c :: rest =>
    if c = 'e' ∨ c = 'E' then
      let (negative, ds) := splitSign rest
      (digits? ds).map fun n => if negative then -(n : Int) else n
    else none

/-- Digits with an optional point and exponent as a coefficient and a power of ten. At least
one digit stands before or after the point. -/
def scientific? (cs : List Char) : Option (Nat × Int) :=
  let whole := cs.takeWhile isDigit
  let rest := cs.dropWhile isDigit
  let (fraction, tail) := match rest with
    | '.' :: more => (more.takeWhile isDigit, more.dropWhile isDigit)
    | _ => ([], rest)
  if whole = [] ∧ fraction = [] then none
  else (exponent? tail).map fun e => (ofDigits (whole ++ fraction), e - fraction.length)

/-- Lower case of an ASCII letter; other characters stay. -/
def asciiLower (c : Char) : Char :=
  if 'A' ≤ c ∧ c ≤ 'Z' then Char.ofNat (c.toNat + 32) else c

/-- A floating-point number: an optional sign, and a decimal numeral or one of the words
`inf`, `infinity` and `nan` in any case. -/
def floating? {f : BinaryFormat} (cs : List Char) : Option (Floating f) :=
  let (negative, rest) := splitSign cs
  let word := String.ofList (rest.map asciiLower)
  if word = "inf" ∨ word = "infinity" then some (Floating.infinity negative)
  else if word = "nan" then some (Floating.notANumber negative)
  else (scientific? rest).map fun (c, e) => Floating.ofDecimal negative c e

end Sift.Numeral
