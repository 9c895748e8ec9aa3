import Sift.Unicode.Ranges

/-!
# Blanks

The characters with the property White_Space in version 15.0 of Unicode.

## Main definitions

* `Sift.isBlank`: whether a character is a blank.
-/

set_option autoImplicit false

namespace Sift

/-- The code points of blanks. -/
def blankRanges : Ranges :=
  [(0x9, 0xD), (0x20, 0x20), (0x85, 0x85), (0xA0, 0xA0), (0x1680, 0x1680), (0x2000, 0x200A),
  (0x2028, 0x2029), (0x202F, 0x202F), (0x205F, 0x205F), (0x3000, 0x3000)]

/-- Whether a character is a blank. -/
def isBlank (c : Char) : Bool := blankRanges.contains c.toNat

end Sift
