/-!
# Sets of characters as ranges of code points

A property of characters is given by the ranges of code points that have it, in ascending order
and apart from one another. A look-up stops at the first range above the character, so that it is
quick for the characters that occur most.

## Main definitions

* `Sift.Ranges`: ranges of code points.
* `Sift.Ranges.contains`: whether a code point lies in one of them.
-/

set_option autoImplicit false

namespace Sift

/-- Ranges of code points, both ends included, in ascending order. -/
abbrev Ranges := List (Nat × Nat)

namespace Ranges

/-- Whether a code point lies in one of the ranges. -/
def contains : Ranges → Nat → Bool
  | [], _ => false
  | (lo, hi) :: rest, n => if n < lo then false else if n ≤ hi then true else contains rest n

/-- A code point found in the ranges lies between the ends of one of them. -/
theorem exists_of_contains {ranges : Ranges} {n : Nat} (h : contains ranges n = true) :
    ∃ r ∈ ranges, r.1 ≤ n ∧ n ≤ r.2 := by
  induction ranges with
  | nil => simp [contains] at h
  | cons head rest ih =>
    obtain ⟨lo, hi⟩ := head
    simp only [contains] at h
    split at h
    · simp at h
    · split at h
      · exact ⟨(lo, hi), List.mem_cons_self, by omega, by omega⟩
      · obtain ⟨r, hr, hlo, hhi⟩ := ih h
        exact ⟨r, List.mem_cons_of_mem _ hr, hlo, hhi⟩

end Ranges

end Sift
