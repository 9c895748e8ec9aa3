import Sift.Number.Floating

/-!
# Exact values of floating-point numbers

A finite number stands for a fraction whose denominator is a power of two. Where a number is
compared with a bound that need not have its format, the comparison is one of fractions.

## Main definitions

* `Sift.Floating.value`: the value of a finite number.
* `Sift.Floating.reaches`: whether a number is at or above a bound.
-/

set_option autoImplicit false

namespace Sift.Floating

variable {f : BinaryFormat}

/-- The value of a finite number. -/
def value (x : Floating f) : Rat :=
  let (n, d) := x.ratio
  mkRat (if x.negative then -(n : Int) else n) d

/-- Whether a number is at or above a bound. The infinities lie beyond every bound on their side,
and a not-a-number reaches none. -/
def reaches (x : Floating f) (bound : Rat) : Bool :=
  if x.isFinite then decide (bound ≤ x.value) else !x.isNaN && !x.negative

end Sift.Floating
