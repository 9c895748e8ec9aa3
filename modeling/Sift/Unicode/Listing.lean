import Sift.Unicode.CharSet

/-!
# The code points of a set of characters

An expression for a set of characters says which code points belong to it; here they are listed, as
ranges in ascending order with gaps between them.

## Main definitions

* `Sift.Ranges.unite`: ranges in any order, put in order and joined.
* `Sift.Ranges.gaps`: what lies between ranges.
* `Sift.CharSet.toRanges`: the ranges of a set.
-/

set_option autoImplicit false

namespace Sift

namespace Ranges

/-- Joins a range with those of the following ones that overlap or touch it. The ranges ascend by
their first code points. -/
def joinFrom (lo hi : Nat) : Ranges → Ranges
  | [] => [(lo, hi)]
  | (first, last) :: rest =>
    if first ≤ hi + 1 then joinFrom lo (max hi last) rest
    else (lo, hi) :: joinFrom first last rest

/-- Ranges in ascending order with gaps between them, for ranges in any order. -/
def unite (rs : Ranges) : Ranges :=
  match rs.mergeSort fun r s => r.1 ≤ s.1 with
  | [] => []
  | (lo, hi) :: rest => joinFrom lo hi rest

/-- The code points from `n` on that lie in none of the ranges. -/
def gapsFrom (n : Nat) : Ranges → Ranges
  | [] => if n ≤ 0x10FFFF then [(n, 0x10FFFF)] else []
  | (lo, hi) :: rest =>
    if n < lo then (n, lo - 1) :: gapsFrom (hi + 1) rest else gapsFrom (hi + 1) rest

/-- The code points that lie in none of the ranges. -/
def gaps (rs : Ranges) : Ranges := gapsFrom 0 rs

end Ranges

namespace FoldingRun

/-- The code points of the run. -/
def members (r : FoldingRun) : List Nat :=
  (List.range ((r.last - r.first) / r.step + 1)).map fun i => r.first + r.step * i

/-- The folding of a code point of the run. -/
def target (r : FoldingRun) (n : Nat) : Nat := (n + r.shift).toNat

end FoldingRun

namespace CharSet

/-- Ranges with the foldings of their code points. -/
def addTargets (rs : Ranges) : Ranges :=
  let more := foldingRuns.flatMap fun r => (r.members.filter rs.contains).map r.target
  Ranges.unite (rs ++ more.map fun n => (n, n))

/-- Ranges with all code points whose foldings lie in them. -/
def addSources (rs : Ranges) : Ranges :=
  let more := foldingRuns.flatMap fun r => r.members.filter fun n => rs.contains (r.target n)
  Ranges.unite (rs ++ more.map fun n => (n, n))

/-- The code points of a set. -/
def toRanges : CharSet → Ranges
  | ranges rs => rs.unite
  | union s t => (toRanges s ++ toRanges t).unite
  | inter s t => ((toRanges s).gaps ++ (toRanges t).gaps).unite.gaps
  | compl s => (toRanges s).gaps
  | anyCase s => addSources (addTargets (toRanges s))

end CharSet

end Sift
