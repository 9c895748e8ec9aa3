/-!
# Arithmetic in 64 bits

Operations on numbers of 64 bits have no result where the number is out of range, and the remainder
for zero is no number either.

## Main definitions

* `Sift.word?`: a number, if it fits.
* `Sift.remainder?`: a remainder, if there is one.
-/

set_option autoImplicit false

namespace Sift

/-- A number of 64 bits, none where it is out of range. -/
def word? (n : Int) : Option Int :=
  if Int64.minValue.toInt ≤ n ∧ n ≤ Int64.maxValue.toInt then some n else none

/-- The remainder in 64 bits, none for the divisor zero. -/
def remainder? (n d : Int) : Option Int := if d = 0 then none else word? (n % d)

/-- A number that has a place is that number. -/
theorem eq_of_word? {n m : Int} (h : word? n = some m) : m = n := by
  unfold word? at h
  split at h
  · exact (Option.some.inj h).symm
  · cases h

/-- What the remainder is, if it has a place. -/
theorem eq_of_remainder? {n d m : Int} (h : remainder? n d = some m) : m = n % d := by
  unfold remainder? at h
  split at h
  · cases h
  · exact eq_of_word? h

end Sift
