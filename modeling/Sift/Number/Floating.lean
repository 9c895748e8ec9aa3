import Sift.Number.Rounding

/-!
# Binary floating-point numbers

A floating-point number is kept as a sign and a magnitude, the bit pattern below the sign bit.
Read as a natural number the magnitude grows with the absolute value of the number, so order
and equality are comparisons of integers. The value of a finite magnitude is a mantissa times a
power of two; conversions go through that exact value and round once, half to even.

## Main definitions

* `Sift.BinaryFormat`, `Sift.binary64`, `Sift.binary32`: the two widths in use.
* `Sift.Floating`, `Sift.Double`, `Sift.Single`: numbers of a format.
* `Sift.BinaryFormat.roundRatio`: the magnitude nearest to a ratio of natural numbers.
* `Sift.Floating.rank`: the total order of all numbers, infinities and not-a-numbers.
* `Sift.Floating.truncate`, `Sift.Floating.floor`: conversion to integers.

## Design

The arithmetic of `Double` is that of the machine. Everything else (order, equality, rounding,
conversion to and from integers and decimals) is integer arithmetic.
-/

set_option autoImplicit false

namespace Sift

/-- A binary interchange format with `precision` significant bits, the leading one included,
and an exponent field of `exponentBits` bits. -/
structure BinaryFormat where
  /-- Number of significant bits. -/
  precision : Nat
  /-- Number of bits of the exponent field. -/
  exponentBits : Nat

/-- Numbers of 64 bits. -/
def binary64 : BinaryFormat := ⟨53, 11⟩

/-- Numbers of 32 bits. -/
def binary32 : BinaryFormat := ⟨24, 8⟩

namespace BinaryFormat

variable (f : BinaryFormat)

/-- Number of bits below the sign. -/
def width : Nat := f.precision - 1 + f.exponentBits

/-- How many magnitudes there are. -/
def magnitudes : Nat := Nat.pow 2 f.width

/-- A format has at least one magnitude. -/
theorem magnitudes_pos : 0 < f.magnitudes := Nat.two_pow_pos f.width

/-- The weight of the lowest exponent bit in a magnitude. -/
def hidden : Nat := Nat.pow 2 (f.precision - 1)

/-- Exponent of the last place of the smallest numbers. -/
def minExponent : Int := 3 - Nat.pow 2 (f.exponentBits - 1) - f.precision

/-- The magnitude of the infinities; larger magnitudes are not numbers. -/
def infinity : Nat := (Nat.pow 2 f.exponentBits - 1) * f.hidden

/-- The magnitude of the not-a-number that stands for all of them. -/
def quiet : Nat := f.infinity + f.hidden / 2

/-- Mantissa and exponent of a finite magnitude, whose value is `mantissa * 2 ^ exponent`. -/
def split (magnitude : Nat) : Nat × Int :=
  let field := magnitude / f.hidden
  let fraction := magnitude % f.hidden
  if field = 0 then (fraction, f.minExponent)
  else (fraction + f.hidden, f.minExponent + (field - 1 : Nat))

/-- The exponent at which `num / den` has `precision` bits, or the smallest exponent when that
one is larger. -/
def exponentOf (num den : Nat) : Int :=
  let t : Int := (num.log2 : Int) - den.log2
  let reaches := den * Nat.pow 2 t.toNat ≤ num * Nat.pow 2 (-t).toNat
  max ((if reaches then t + 1 else t) - f.precision) f.minExponent

/-- The magnitude nearest to `num / den`, half to even; ratios beyond the largest finite number
give the infinity. A magnitude grows by one from each number to the next, so that a mantissa
rounded up to the next power of two carries into the exponent by itself. -/
def roundRatio (num den : Nat) : Nat :=
  if num = 0 then 0
  else
    let e := f.exponentOf num den
    let q := roundHalfEven (num * Nat.pow 2 (-e).toNat) (den * Nat.pow 2 e.toNat)
    min f.infinity ((e - f.minExponent).toNat * f.hidden + q)

end BinaryFormat

/-- A floating-point number of a format: its sign and the bits below the sign. -/
structure Floating (f : BinaryFormat) where
  /-- Whether the sign bit is set. -/
  negative : Bool
  /-- Exponent field and fraction as one number. -/
  magnitude : Fin f.magnitudes
deriving DecidableEq

/-- Numbers of 64 bits. -/
abbrev Double := Floating binary64

/-- Numbers of 32 bits. -/
abbrev Single := Floating binary32

namespace Floating

variable {f : BinaryFormat}

/-- The number with the given sign and magnitude. -/
def ofMagnitude (negative : Bool) (magnitude : Nat) : Floating f :=
  ⟨negative, magnitude % f.magnitudes, Nat.mod_lt _ f.magnitudes_pos⟩

instance : Inhabited (Floating f) := ⟨ofMagnitude false 0⟩

/-- Positive or negative zero. -/
def zero (negative : Bool) : Floating f := ofMagnitude negative 0

/-- Positive or negative infinity. -/
def infinity (negative : Bool) : Floating f := ofMagnitude negative f.infinity

/-- The not-a-number with the given sign. -/
def notANumber (negative : Bool) : Floating f := ofMagnitude negative f.quiet

/-- Whether the number is neither infinite nor a not-a-number. -/
def isFinite (x : Floating f) : Bool := decide (x.magnitude.val < f.infinity)

/-- Whether the value is not a number. -/
def isNaN (x : Floating f) : Bool := decide (f.infinity < x.magnitude.val)

/-- A finite number is a number. -/
theorem isNaN_of_isFinite {x : Floating f} (h : x.isFinite = true) : x.isNaN = false :=
  decide_eq_false (Nat.not_lt.2 (Nat.le_of_lt (of_decide_eq_true h)))

/-- Position in the total order of all bit patterns: negative numbers by falling magnitude,
then positive numbers by rising magnitude. The two zeros differ, and not-a-numbers lie outside
the infinity of their sign. -/
def rank (x : Floating f) : Int :=
  if x.negative then -(x.magnitude.val : Int) - 1 else x.magnitude.val

/-- The total order of all bit patterns. -/
def totalCompare (x y : Floating f) : Ordering := compare x.rank y.rank

/-- Position in the numeric order, where the two zeros are equal. -/
def signed (x : Floating f) : Int :=
  if x.negative then -(x.magnitude.val : Int) else x.magnitude.val

/-- Numeric equality: the zeros are equal and a not-a-number equals nothing. -/
def numEq (x y : Floating f) : Bool := !x.isNaN && !y.isNaN && x.signed == y.signed

/-- Numeric order: nothing lies below or above a not-a-number. -/
def numLt (x y : Floating f) : Bool := !x.isNaN && !y.isNaN && decide (x.signed < y.signed)

/-- Numeric order with equality. -/
def numLe (x y : Floating f) : Bool := !x.isNaN && !y.isNaN && decide (x.signed ≤ y.signed)

/-- The number nearest to `± num / den`. -/
def ofRatio (negative : Bool) (num den : Nat) : Floating f :=
  ofMagnitude negative (f.roundRatio num den)

/-- The number nearest to an integer. -/
def ofInt (n : Int) : Floating f := ofRatio (decide (n < 0)) n.natAbs 1

/-- The number nearest to `± coefficient * 10 ^ exponent`. Exponents whose value is certainly
beyond the range of the format are answered without computing the power. -/
def ofDecimal (negative : Bool) (coefficient : Nat) (exponent : Int) : Floating f :=
  if coefficient = 0 then zero negative
  else
    let bits : Int := Nat.pow 2 f.exponentBits
    if bits < exponent then infinity negative
    else if exponent + coefficient.log2 < -bits then zero negative
    else ofRatio negative (coefficient * Nat.pow 10 exponent.toNat) (Nat.pow 10 (-exponent).toNat)

/-- The ratio of natural numbers that a finite magnitude stands for. -/
def ratio (x : Floating f) : Nat × Nat :=
  let (m, e) := f.split x.magnitude.val
  (m * Nat.pow 2 e.toNat, Nat.pow 2 (-e).toNat)

/-- The integer between a finite number and zero that is nearest to the number. -/
def truncate (x : Floating f) : Option Int :=
  if x.isFinite then
    let (n, d) := x.ratio
    some (if x.negative then -((n / d : Nat) : Int) else ((n / d : Nat) : Int))
  else none

/-- The largest integer that is not above a finite number. -/
def floor (x : Floating f) : Option Int :=
  if x.isFinite then
    let (n, d) := x.ratio
    some (Int.fdiv (if x.negative then -(n : Int) else n) d)
  else none

/-- The integer that a number of any kind becomes in the range from `lo` to `hi`: finite numbers
by the given conversion, clamped to the range, infinities at its ends, not-a-numbers as zero. -/
def clampWith (convert : Floating f → Option Int) (lo hi : Int) (x : Floating f) : Int :=
  match convert x with
  | some n => max lo (min hi n)
  | none => if x.isNaN then 0 else if x.negative then lo else hi

/-- The number of another format nearest to this one. Signs of zeros, infinities and
not-a-numbers are kept. -/
def convert {g : BinaryFormat} (x : Floating f) : Floating g :=
  if x.isNaN then notANumber x.negative
  else if x.isFinite then ofRatio x.negative x.ratio.1 x.ratio.2
  else infinity x.negative

end Floating

namespace Double

/-- The machine number with the same bits. -/
def toFloat (x : Double) : Float :=
  Float.ofBits (UInt64.ofNat ((if x.negative then binary64.magnitudes else 0) + x.magnitude.val))

/-- The number with the bits of a machine number. -/
def ofFloat (x : Float) : Double :=
  let bits := x.toBits.toNat
  Floating.ofMagnitude (decide (binary64.magnitudes ≤ bits)) (bits % binary64.magnitudes)

/-- Sum, rounded. -/
def add (x y : Double) : Double := ofFloat (x.toFloat + y.toFloat)

/-- Difference, rounded. -/
def sub (x y : Double) : Double := ofFloat (x.toFloat - y.toFloat)

/-- Product, rounded. -/
def mul (x y : Double) : Double := ofFloat (x.toFloat * y.toFloat)

/-- Quotient, rounded. -/
def div (x y : Double) : Double := ofFloat (x.toFloat / y.toFloat)

/-- The smaller of two numbers, the second one of two equal numbers; a not-a-number gives way
to the other operand. -/
def lesser (x y : Double) : Double :=
  if x.isNaN then y else if y.isNaN then x else if x.numLt y then x else y

/-- The larger of two numbers, the second one of two equal numbers; a not-a-number gives way
to the other operand. -/
def greater (x y : Double) : Double :=
  if x.isNaN then y else if y.isNaN then x else if y.numLt x then x else y

end Double

end Sift
