import Sift.Unicode.Ranges

/-!
# Encoded ranges of code points

A code point is encoded as one to four bytes. A range of code points falls into parts, in each of
which every byte runs through a range of its own, whatever the other bytes are.

## Main definitions

* `Sift.Encoding.runs`: the parts of a range.
* `Sift.Encoding.countBytes`: how many bytes the parts have when beginnings in common count once.
-/

set_option autoImplicit false

namespace Sift.Encoding

/-- The ranges of the bytes of several encoded code points. -/
abbrev Run := List (Nat × Nat)

/-- The parts of a range that is encoded with so many bytes behind the first one. Every byte behind
the first one holds six bits and has 128 added to it; to the first one `base` is added. -/
def split : Nat → Nat → Nat → Nat → List Run
  | 0, base, lo, hi => [[(base + lo, base + hi)]]
  | k + 1, base, lo, hi =>
    let unit := Nat.pow 64 (k + 1)
    let behind (head first last : Nat) : List Run :=
      (split k 0x80 first last).map fun run => (base + head, base + head) :: run
    let first := lo / unit
    let last := hi / unit
    if first = last then behind first (lo % unit) (hi % unit)
    else
      let opens := lo % unit == 0
      let closes := hi % unit == unit - 1
      let low := if opens then first else first + 1
      let high := if closes then last + 1 else last
      let front := if opens then [] else behind first (lo % unit) (unit - 1)
      let middle : List Run :=
        if low < high then
          [(base + low, base + high - 1) :: List.replicate (k + 1) (0x80, 0xBF)]
        else []
      let back := if closes then [] else behind last 0 (hi % unit)
      front ++ middle ++ back

/-- The code points of one length: how many bytes follow the first one, what is added to that one,
and the code points. Those that stand for halves of others are not encoded. -/
def lengths : List (Nat × Nat × Nat × Nat) :=
  [(0, 0, 0, 0x7F), (1, 0xC0, 0x80, 0x7FF), (2, 0xE0, 0x800, 0xD7FF), (2, 0xE0, 0xE000, 0xFFFF),
    (3, 0xF0, 0x10000, 0x10FFFF)]

/-- The parts of a range. -/
def runs (r : Nat × Nat) : List Run :=
  lengths.flatMap fun (k, base, first, last) =>
    let lo := max r.1 first
    let hi := min r.2 last
    if lo ≤ hi then split k base lo hi else []

/-- How many elements two lists have in common at their beginnings. -/
def sharedLength : Run → Run → Nat
  | a :: as, b :: bs => if a = b then sharedLength as bs + 1 else 0
  | _, _ => 0

/-- The bytes of runs in ascending order, where those that a run has in common with the one in
front of it are not counted again. -/
def countBytes (before : Run) : List Run → Nat
  | [] => 0
  | run :: rest => run.length - sharedLength before run + countBytes run rest

end Sift.Encoding
