import Sift.Number.Floating

/-!
# Decimal text of floating-point numbers

The text of a number has as few digits as still read back as the same number; among texts with
that many digits it is the one nearest to the number. `Floating.shortest` finds those digits by
testing, for one digit, two digits and so on, the two neighbours of the number on the decimal
grid. How the digits are laid out is a separate matter, settled by a `NumberStyle`.

## Main definitions

* `Sift.Decimal`: a coefficient and a power of ten.
* `Sift.Floating.shortest`: the digits of a finite number other than zero.
* `Sift.NumberStyle`, `Sift.Floating.render`: the layout of digits, and the text of a number.
* `Sift.Floating.renderFixed`: the text with a fixed number of decimal places.
-/

set_option autoImplicit false

namespace Sift

/-- The number `coefficient * 10 ^ exponent`. -/
structure Decimal where
  /-- All significant digits as one number. -/
  coefficient : Nat
  /-- Power of ten of the last digit. -/
  exponent : Int
deriving DecidableEq, Repr

/-- The decimal digits of a natural number, most significant first. -/
def decimalDigits (n : Nat) : List Char := Nat.toDigits 10 n

/-- The `k` with `10 ^ k ≤ num / den < 10 ^ (k + 1)`, for positive `num` and `den`. -/
def decimalExponent (num den : Nat) : Int :=
  let t : Int := ((decimalDigits num).length : Int) - (decimalDigits den).length
  if den * Nat.pow 10 t.toNat ≤ num * Nat.pow 10 (-t).toNat then t else t - 1

/-- The reals that round to a finite magnitude, in units of `unitNum / unitDen`: the number
itself lies at `centre`, and the ends belong to the interval iff `closed`. -/
structure RoundingInterval where
  /-- Lower end. -/
  lower : Nat
  /-- The number itself. -/
  centre : Nat
  /-- Upper end. -/
  upper : Nat
  /-- Whether the ends round to the number. -/
  closed : Bool
  /-- Numerator of the unit. -/
  unitNum : Nat
  /-- Denominator of the unit. -/
  unitDen : Nat

namespace RoundingInterval

/-- The rounding interval of a finite magnitude other than zero. The unit is a quarter of the
last place, because the gap below a power of two is half of the gap above it. -/
def ofMagnitude (f : BinaryFormat) (magnitude : Nat) : RoundingInterval :=
  let (m, e) := f.split magnitude
  let below := if m = f.hidden ∧ f.minExponent < e then 1 else 2
  { lower := 4 * m - below
    centre := 4 * m
    upper := 4 * m + 2
    closed := m % 2 = 0
    unitNum := Nat.pow 2 (e - 2).toNat
    unitDen := Nat.pow 2 (2 - e).toNat }

/-- Whether `coefficient * 10 ^ exponent` lies in the interval. -/
def contains (i : RoundingInterval) (d : Decimal) : Bool :=
  let x := d.coefficient * Nat.pow 10 d.exponent.toNat * i.unitDen
  let scale := i.unitNum * Nat.pow 10 (-d.exponent).toNat
  if i.closed then i.lower * scale ≤ x ∧ x ≤ i.upper * scale
  else i.lower * scale < x ∧ x < i.upper * scale

/-- The grid point with the last digit at `10 ^ exponent` that lies in the interval, if there is
one; of two such points the one nearer to the number, and of two equally near ones the upper or
the even one. -/
def pick? (i : RoundingInterval) (tiesUp : Bool) (exponent : Int) : Option Decimal :=
  let num := i.centre * i.unitNum * Nat.pow 10 (-exponent).toNat
  let den := i.unitDen * Nat.pow 10 exponent.toNat
  let low : Decimal := ⟨num / den, exponent⟩
  let high : Decimal := ⟨num / den + 1, exponent⟩
  match i.contains low, i.contains high with
  | true, true =>
    let rest := 2 * (num % den)
    if rest < den ∨ (rest = den ∧ !tiesUp ∧ low.coefficient % 2 = 0) then some low else some high
  | true, false => some low
  | false, true => some high
  | false, false => none

/-- The first hit among grids of falling coarseness, at most `fuel` of them; the last grid is
taken as it is. -/
def search (i : RoundingInterval) (tiesUp : Bool) : Nat → Int → Decimal
  | 0, exponent =>
    let num := i.centre * i.unitNum * Nat.pow 10 (-exponent).toNat
    ⟨num / (i.unitDen * Nat.pow 10 exponent.toNat), exponent⟩
  | fuel + 1, exponent =>
    match i.pick? tiesUp exponent with
    | some d => d
    | none => i.search tiesUp fuel (exponent - 1)

end RoundingInterval

namespace Decimal

/-- The same number without zeros at the end of the coefficient; `fuel` bounds their count. -/
def trimZeros : Nat → Decimal → Decimal
  | 0, d => d
  | fuel + 1, d =>
    if d.coefficient % 10 = 0 then trimZeros fuel ⟨d.coefficient / 10, d.exponent + 1⟩ else d

end Decimal

/-- How digits become text. -/
structure NumberStyle where
  /-- The exponents of the first digit for which a number is written without an exponent; all
  of them when absent. -/
  plain : Option (Int × Int)
  /-- What follows an integer that is written without an exponent. -/
  integerSuffix : String
  /-- Whether the upper one of two equally near digits is taken, rather than the even one. -/
  tiesUp : Bool

namespace NumberStyle

/-- The style of values inside text: never an exponent, integers without a point. -/
def text : NumberStyle := ⟨none, "", true⟩

/-- The style of 64-bit numbers in JSON text. -/
def json64 : NumberStyle := ⟨some (-5, 15), ".0", false⟩

/-- The style of 32-bit numbers in JSON text. -/
def json32 : NumberStyle := ⟨some (-6, 12), ".0", false⟩

/-- Digits with the point at its place and no exponent. -/
def layPlain (style : NumberStyle) (digits : List Char) (exponent : Int) : String :=
  if 0 ≤ exponent then
    String.ofList (digits ++ List.replicate exponent.toNat '0') ++ style.integerSuffix
  else
    let places := (-exponent).toNat
    if places < digits.length then
      let whole := digits.length - places
      String.ofList (digits.take whole ++ '.' :: digits.drop whole)
    else
      String.ofList ('0' :: '.' :: (List.replicate (places - digits.length) '0' ++ digits))

/-- The first digit, a point if more follow, and the exponent with its sign. -/
def layScientific (digits : List Char) (exponent : Int) : String :=
  let mantissa :=
    match digits with
    | [] => []
    | [d] => [d]
    | d :: rest => d :: '.' :: rest
  let sign := if exponent < 0 then '-' else '+'
  String.ofList (mantissa ++ 'e' :: sign :: decimalDigits exponent.natAbs)

/-- The text of a positive decimal number. -/
def lay (style : NumberStyle) (d : Decimal) : String :=
  let digits := decimalDigits d.coefficient
  let first := d.exponent + digits.length - 1
  match style.plain with
  | none => style.layPlain digits d.exponent
  | some (least, greatest) =>
    if least ≤ first ∧ first ≤ greatest then style.layPlain digits d.exponent
    else layScientific digits first

end NumberStyle

namespace Floating

variable {f : BinaryFormat}

/-- The fewest digits that read back as the given finite number, which is not zero. -/
def shortest (tiesUp : Bool) (x : Floating f) : Decimal :=
  let i := RoundingInterval.ofMagnitude f x.magnitude.val
  let d := i.search tiesUp 17 (decimalExponent (i.centre * i.unitNum) i.unitDen)
  d.trimZeros 20

/-- The text of a number in a style. -/
def render (style : NumberStyle) (x : Floating f) : String :=
  if x.isNaN then "NaN"
  else
    let sign := if x.negative then "-" else ""
    if !x.isFinite then sign ++ "inf"
    else if x.magnitude.val = 0 then sign ++ "0" ++ style.integerSuffix
    else sign ++ style.lay (x.shortest style.tiesUp)

/-- The text of a number in the style of values inside text. -/
def toText (x : Floating f) : String := x.render NumberStyle.text

/-- The text of a number with exactly `places` decimal places, half to even. -/
def renderFixed (places : Nat) (x : Floating f) : String :=
  if x.isNaN then "NaN"
  else
    let sign := if x.negative then "-" else ""
    if !x.isFinite then sign ++ "inf"
    else
      let (n, d) := x.ratio
      let scaled := roundHalfEven (n * Nat.pow 10 places) d
      let fraction := decimalDigits (scaled % Nat.pow 10 places)
      let padding := List.replicate (places - fraction.length) '0'
      sign ++ toString (scaled / Nat.pow 10 places) ++
        (if places = 0 then "" else "." ++ String.ofList (padding ++ fraction))

end Floating

end Sift
