import Mathlib.Data.List.Induction
import Mathlib.Tactic.Lemma
import Sift.Sorting

/-!
# What sorting puts in order

Sorting by insertion leads to a list in which a relation holds between any two places, if the
relation is transitive and is settled by each comparison that sorting makes. The later one of two
elements comes first only if it compares as less; if it does not, the relation may also rest on the
order that the elements had before. This makes sorting stable, and it asks nothing of comparisons
beyond the relation: what compares ties need not be consistent.

## Main results

* `Sift.Sorting.pairwise_sort`: the relation between any two elements of a sorted list.
* `Sift.Sorting.sort?_map`: sorting by what elements stand for.
* `Sift.Sorting.Consistent.of_transCmp`: comparisons that order all lists.
-/

set_option autoImplicit false

namespace Sift.Sorting

variable {α : Type} {order : α → α → Ordering} {before after : α → α → Prop} {x : α} {xs : List α}

/-- **One insertion.** In the list from the last element to the first one, everything after an
element is put in front of it. -/
theorem pairwise_place (hxs : xs.Pairwise fun y z => after z y)
    (htrans : ∀ y ∈ xs, ∀ z ∈ xs, after z y → after y x → after z x)
    (hless : ∀ y ∈ xs, order x y = .lt → after x y)
    (hother : ∀ y ∈ xs, order x y ≠ .lt → after y x) :
    (place order x xs).Pairwise fun y z => after z y := by
  induction xs with
  | nil => exact List.pairwise_singleton _ x
  | cons y rest ih =>
    obtain ⟨hy, hrest⟩ := List.pairwise_cons.1 hxs
    rw [place]
    split
    · rename_i hlt
      refine List.pairwise_cons.2 ⟨fun z hz => ?_, ih hrest ?_ ?_ ?_⟩
      · rcases List.mem_cons.1 ((place_perm order x rest).mem_iff.1 hz) with rfl | hz
        · exact hless y List.mem_cons_self hlt
        · exact hy z hz
      · exact fun z hz w hw => htrans z (List.mem_cons_of_mem _ hz) w (List.mem_cons_of_mem _ hw)
      · exact fun z hz => hless z (List.mem_cons_of_mem _ hz)
      · exact fun z hz => hother z (List.mem_cons_of_mem _ hz)
    · rename_i hlt
      have hyx := hother y List.mem_cons_self hlt
      refine List.pairwise_cons.2 ⟨fun z hz => ?_, hxs⟩
      rcases List.mem_cons.1 hz with rfl | hz
      · exact hyx
      · exact htrans y List.mem_cons_self z (List.mem_cons_of_mem _ hz) (hy z hz) hyx

/-- **What sorting puts in order.** Let a relation be transitive among the elements of a list. If it
holds from each element to all that it is less than, and from each to all later ones that are not
less than it, then it holds from each element of the sorted list to all later ones. What holds of
all earlier and later elements of the list itself may be used for the latter.

**Proof sketch.** The sorted part is a list from the last element to the first one, and the relation
holds from each of its elements to all earlier ones. One insertion keeps this, since the new element
comes after everything in the sorted part. -/
theorem pairwise_sort (hxs : xs.Pairwise before)
    (htrans : ∀ x ∈ xs, ∀ y ∈ xs, ∀ z ∈ xs, after x y → after y z → after x z)
    (hless : ∀ x ∈ xs, ∀ y ∈ xs, order x y = .lt → after x y)
    (hother : ∀ x ∈ xs, ∀ y ∈ xs, order x y ≠ .lt → before y x → after y x) :
    (sort order xs).Pairwise after := by
  -- The list is the part that has been sorted, and a rest that comes after it.
  have hrun : ∀ (rest done sorted : List α), xs = done ++ rest → sorted.Perm done →
      sorted.Pairwise (fun y z => after z y) →
      (rest.foldl (fun sorted x => place order x sorted) sorted).Pairwise fun y z => after z y := by
    intro rest
    induction rest with
    | nil => exact fun _ _ _ _ h => h
    | cons x rest ih =>
      intro done sorted hsplit hperm hsorted
      have hx : x ∈ xs := hsplit ▸ List.mem_append_right _ List.mem_cons_self
      have hmem : ∀ y ∈ sorted, y ∈ xs := fun y hy =>
        hsplit ▸ List.mem_append_left _ (hperm.mem_iff.1 hy)
      have hbefore : ∀ y ∈ sorted, before y x := by
        intro y hy
        rw [hsplit] at hxs
        exact (List.pairwise_append.1 hxs).2.2 y (hperm.mem_iff.1 hy) x List.mem_cons_self
      refine ih (done ++ [x]) (place order x sorted) ?_ ?_ ?_
      · rw [hsplit, List.append_assoc, List.singleton_append]
      · exact (place_perm order x sorted).trans
          ((hperm.cons x).trans (List.perm_append_singleton x done).symm)
      · exact pairwise_place hsorted
          (fun y hy z hz => htrans z (hmem z hz) y (hmem y hy) x hx)
          (fun y hy => hless x hx y (hmem y hy))
          (fun y hy hlt => hother x hx y (hmem y hy) hlt (hbefore y hy))
  rw [sort, List.pairwise_reverse]
  exact hrun xs [] [] rfl (.refl _) .nil

/-! ## Sorting by something else -/

variable {β : Type}

/-- Where no element precedes another one, sorting keeps the list. -/
lemma sort_eq_self (h : ∀ a b, order a b ≠ .lt) (xs : List α) : sort order xs = xs := by
  have hplace : ∀ (x : α) (ys : List α), place order x ys = x :: ys := by
    intro x ys
    cases ys with
    | nil => rfl
    | cons y ys => rw [place, if_neg (h x y)]
  rw [sort, descending, funext fun ys => funext fun x => hplace x ys,
    List.foldl_flip_cons_eq_append']
  simp

/-- Sorting by what elements stand for is sorting what they stand for. -/
lemma map_sort (f : α → β) (order : β → β → Ordering) (xs : List α) :
    (sort (fun x y => order (f x) (f y)) xs).map f = sort order (xs.map f) := by
  have hplace : ∀ (x : α) (ys : List α),
      (place (fun x y => order (f x) (f y)) x ys).map f = place order (f x) (ys.map f) := by
    intro x ys
    induction ys with
    | nil => rfl
    | cons y ys ih =>
      rw [place, List.map_cons, place]
      split
      · rw [List.map_cons, ih]
      · rfl
  have hrun : ∀ acc : List α,
      (xs.foldl (fun sorted x => place (fun x y => order (f x) (f y)) x sorted) acc).map f =
        (xs.map f).foldl (fun sorted x => place order x sorted) (acc.map f) := by
    induction xs with
    | nil => exact fun _ => rfl
    | cons x rest ih =>
      intro acc
      rw [List.foldl_cons, List.map_cons, List.foldl_cons, ih, hplace]
  rw [sort, sort, List.map_reverse]
  exact congrArg List.reverse (hrun [])

/-- A comparison orders elements if it orders what they stand for. -/
lemma consistent_map_iff (f : α → β) (order : β → β → Ordering) (xs : List α) :
    Consistent order (xs.map f) ↔ Consistent (fun x y => order (f x) (f y)) xs := by
  simp only [Consistent, List.forall_mem_map]

/-- A list can be sorted if what its elements stand for can. -/
lemma sortable_map_iff (f : α → β) (order : β → β → Ordering) (xs : List α) :
    Sortable order (xs.map f) ↔ Sortable (fun x y => order (f x) (f y)) xs := by
  rw [Sortable, Sortable, List.length_map, consistent_map_iff]

/-- **Sorting by what elements stand for** is sorting what they stand for, also in no order. -/
theorem sort?_map (d : Disorder) (f : α → β) (order : β → β → Ordering) (xs : List α) :
    sort? d order (xs.map f) = (sort? d (fun x y => order (f x) (f y)) xs).map (List.map f) := by
  have hsame : comparisons order (xs.map f) = comparisons (fun x y => order (f x) (f y)) xs := by
    simp only [comparisons, List.map_map, Function.comp_def]
  unfold sort?
  simp only [sortable_map_iff, hsame]
  split
  · rw [Option.map_some, map_sort]
  · simp [List.map_filterMap, Function.comp_def]

/-- A transitive comparison orders a list. -/
theorem Consistent.of_transCmp (h : Std.TransCmp fun x y : { x // x ∈ xs } => order x.1 y.1) :
    Consistent order xs := by
  intro a ha b hb
  refine ⟨?_, fun c hc hab hbc => ?_⟩
  · exact h.toOrientedCmp.eq_swap (a := ⟨b, hb⟩) (b := ⟨a, ha⟩)
  · exact Ordering.ne_gt_iff_isLE.2 (h.isLE_trans (a := ⟨a, ha⟩) (b := ⟨b, hb⟩) (c := ⟨c, hc⟩)
      (Ordering.ne_gt_iff_isLE.1 hab) (Ordering.ne_gt_iff_isLE.1 hbc))

end Sift.Sorting
