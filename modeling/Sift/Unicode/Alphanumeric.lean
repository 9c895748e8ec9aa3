import Sift.Unicode.Categories

/-!
# Letters and digits of all scripts

## Main definitions

* `Sift.isAlphabetic`: whether a character is alphabetic.
* `Sift.isAlphanumeric`: whether a character is alphabetic or a number.
-/

set_option autoImplicit false

namespace Sift

/-- Whether a character is alphabetic. -/
def isAlphabetic (c : Char) : Bool := Category.alphabetic.any fun r => r.contains c.toNat

/-- Whether a character is alphabetic or a number of some script. -/
def isAlphanumeric (c : Char) : Bool :=
  isAlphabetic c || Category.numbers.any fun r => r.contains c.toNat

example : isAlphanumeric 'a' = true ∧ isAlphanumeric '7' = true ∧ isAlphanumeric 'é' = true ∧
    isAlphanumeric ':' = false ∧ isAlphanumeric '_' = false := by decide +kernel

end Sift
