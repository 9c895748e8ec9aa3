import Sift.Unicode.CaseFold
import Sift.Unicode.Ranges

/-!
# Sets of characters

A set of characters is written as it is built: from ranges, by the operations on sets, and by
closing a set under change of case. Whether a code point belongs to it is read off the
expression.

## Main definitions

* `Sift.CharSet`: expressions for sets.
* `Sift.CharSet.contains`: whether a set contains a code point.
-/

set_option autoImplicit false

namespace Sift

/-- A set of characters. -/
inductive CharSet where
  /-- The code points of ranges in ascending order. -/
  | ranges (ranges : Ranges)
  /-- What is in one of two sets. -/
  | union (left right : CharSet)
  /-- What is in both of two sets. -/
  | inter (left right : CharSet)
  /-- What is not in a set. -/
  | compl (inner : CharSet)
  /-- What is in a set when case is disregarded. -/
  | anyCase (inner : CharSet)
deriving DecidableEq, Inhabited

namespace CharSet

/-- Whether a code point is in the set. -/
def contains : CharSet → Nat → Bool
  | ranges rs, n => rs.contains n
  | union s t, n => contains s n || contains t n
  | inter s t, n => contains s n && contains t n
  | compl s, n => !contains s n
  | anyCase s, n => (caseVariants n).any fun m => contains s m

/-- No character. -/
def empty : CharSet := ranges []

/-- Every character. -/
def all : CharSet := compl empty

/-- One character. -/
def single (c : Char) : CharSet := ranges [(c.toNat, c.toNat)]

/-- The characters between two ones, both included. -/
def between (first last : Char) : CharSet := ranges [(first.toNat, last.toNat)]

/-- The characters of several ranges, each list in ascending order. -/
def ofRanges (lists : List Ranges) : CharSet :=
  lists.foldr (fun rs s => union (ranges rs) s) empty

/-- What is in the first of two sets only. -/
def except (s t : CharSet) : CharSet := inter s (compl t)

/-- What is in exactly one of two sets. -/
def symmDiff (s t : CharSet) : CharSet := union (except s t) (except t s)

/-- The set, or its complement. -/
def negateIf (negated : Bool) (s : CharSet) : CharSet := if negated then compl s else s

end CharSet

end Sift
