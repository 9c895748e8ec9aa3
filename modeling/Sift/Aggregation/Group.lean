import Sift.Value.Basic
import Sift.Query.Basic

/-!
# Groups of records

An aggregation into buckets forms groups of records first. Records are grouped by what they
mention: a record belongs to the group of everything that it mentions, and to no group twice,
however often it mentions the same.

## Main definitions

* `Sift.Group`: a group of records and what they have in common.
* `Sift.Group.distinctBy`: the first elements with each image.
* `Sift.Group.gather`: records grouped by what they mention.

## Main results

* `Sift.Group.mem_distinctBy`, `Sift.Group.image_mem_distinctBy`: nothing is invented, and no image
  is lost.
* `Sift.Group.pairwise_distinctBy`: no image occurs twice.
-/

set_option autoImplicit false

namespace Sift

/-- A group of records and what they have in common. -/
structure Group (R : Type) where
  /-- The name of the group. -/
  key : Value
  /-- The lower end of a range. -/
  lower : Option Value := none
  /-- The upper end of a range. -/
  upper : Option Value := none
  /-- The filter that selects the records. -/
  query : Option Query := none
  /-- The records, in their order. -/
  records : List R

namespace Group

variable {R α κ : Type} [DecidableEq κ]

/-- The elements of a list whose image no earlier element has. -/
def distinctBy (image : α → κ) : List α → List α
  | [] => []
  | x :: rest => x :: (distinctBy image rest).filter fun y => image y ≠ image x

/-- Records grouped by what they mention, with one group for each image, in the order in which the
images are first mentioned. Each record comes with the list of what it mentions. -/
def gather (image : α → κ) (entries : List (R × List α)) : List (α × List R) :=
  (distinctBy image (entries.flatMap Prod.snd)).map fun x =>
    (x, (entries.filter fun e => e.2.any fun y => image y = image x).map Prod.fst)

/-- Only given elements are kept. -/
theorem mem_distinctBy {image : α → κ} {xs : List α} {x : α} (h : x ∈ distinctBy image xs) :
    x ∈ xs := by
  induction xs with
  | nil => exact h
  | cons y rest ih =>
    rcases List.mem_cons.1 h with h | h
    · exact h ▸ List.mem_cons_self
    · exact List.mem_cons_of_mem _ (ih (List.mem_filter.1 h).1)

/-- The image of every given element is kept, by some element. -/
theorem image_mem_distinctBy {image : α → κ} {xs : List α} {x : α} (h : x ∈ xs) :
    ∃ y ∈ distinctBy image xs, image y = image x := by
  induction xs with
  | nil => cases h
  | cons z rest ih =>
    by_cases hz : image z = image x
    · exact ⟨z, List.mem_cons_self, hz⟩
    · rcases List.mem_cons.1 h with rfl | h
      · exact absurd rfl hz
      · obtain ⟨y, hy, hyx⟩ := ih h
        refine ⟨y, List.mem_cons_of_mem _ (List.mem_filter.2 ⟨hy, ?_⟩), hyx⟩
        simpa [hyx] using Ne.symm hz

/-- The elements that are kept have different images. -/
theorem pairwise_distinctBy (image : α → κ) (xs : List α) :
    (distinctBy image xs).Pairwise fun x y => image x ≠ image y := by
  induction xs with
  | nil => exact .nil
  | cons x rest ih =>
    refine List.pairwise_cons.2 ⟨fun y hy => ?_, ih.filter _⟩
    exact Ne.symm (of_decide_eq_true (List.mem_filter.1 hy).2)

end Group

end Sift
