/-!
# Stable sorting by insertion

Elements are placed one after the other into a sorted list. An element is compared with those
already placed from the last one backwards and comes to stand behind the first that does not
exceed it, so that elements that compare equal keep their order.

A comparison need not be consistent: it may find `a` equal to `b` and `b` equal to `c`, but `c` less
than `a`. Up to twenty elements are then sorted all the same, by insertion. For longer lists other
methods are used, which rely on consistency: they may notice that it is missing and break off, or
leave the elements in any order. What they do is a parameter here. It depends on nothing but the
results of comparisons, and it loses and invents no elements.

## Main definitions

* `Sift.Sorting.place`: one insertion, into a list in descending order.
* `Sift.Sorting.sort`: the list that is sorted by insertion.
* `Sift.Sorting.Consistent`: the comparison orders the elements of a list.
* `Sift.Sorting.Sortable`: lists that are sorted by all methods.
* `Sift.Sorting.Disorder`: what becomes of other lists.
* `Sift.Sorting.sort?`: the list that sorting leaves, unless it is broken off.

## Main results

* `Sift.Sorting.sort_perm`, `Sift.Sorting.sort?_perm`: sorting loses and invents nothing.
* `Sift.Sorting.exists_sort?_iff`: when sorting is not broken off.
-/

set_option autoImplicit false

namespace Sift.Sorting

variable {α : Type}

/-- Puts an element in front of the first element that does not exceed it. -/
def place (order : α → α → Ordering) (x : α) : List α → List α
  | [] => [x]
  | y :: rest => if order x y = .lt then y :: place order x rest else x :: y :: rest

/-- The elements in descending order, of equal ones the last one first. -/
def descending (order : α → α → Ordering) (xs : List α) : List α :=
  xs.foldl (fun sorted x => place order x sorted) []

/-- The elements in ascending order, equal ones in the order of the list. -/
def sort (order : α → α → Ordering) (xs : List α) : List α := (descending order xs).reverse

/-- A comparison orders the elements of a list: the order of two elements does not depend on which
of them comes first, and no element exceeds another one by way of a third. -/
def Consistent (order : α → α → Ordering) (xs : List α) : Prop :=
  ∀ a ∈ xs, ∀ b ∈ xs, order b a = (order a b).swap ∧
    ∀ c ∈ xs, order a b ≠ .gt → order b c ≠ .gt → order a c ≠ .gt

instance (order : α → α → Ordering) (xs : List α) : Decidable (Consistent order xs) :=
  inferInstanceAs (Decidable (∀ a ∈ xs, ∀ b ∈ xs, order b a = (order a b).swap ∧
    ∀ c ∈ xs, order a b ≠ .gt → order b c ≠ .gt → order a c ≠ .gt))

/-- The greatest length of lists that are sorted whatever the comparison is. -/
def insertionLimit : Nat := 20

/-- Lists that are sorted by all methods: short ones, and those that the comparison orders. -/
def Sortable (order : α → α → Ordering) (xs : List α) : Prop :=
  xs.length ≤ insertionLimit ∨ Consistent order xs

instance (order : α → α → Ordering) (xs : List α) : Decidable (Sortable order xs) :=
  inferInstanceAs (Decidable (xs.length ≤ insertionLimit ∨ Consistent order xs))

/-- What becomes of lists that are not ordered by the comparison of their elements. Sorting may be
broken off, or it puts the elements into some places. -/
structure Disorder where
  /-- For the results of all comparisons, row by row, the places that elements are taken from. -/
  places? : List (List Ordering) → Option (List Nat)
  /-- Every place is taken once. -/
  perm_range : ∀ {table places}, places? table = some places →
    places.Perm (List.range table.length)

/-- Sorting is broken off by all lists that are not ordered. -/
def Disorder.refused : Disorder where
  places? _ := none
  perm_range h := by cases h

/-- The results of comparing the elements of a list with each other. -/
def comparisons (order : α → α → Ordering) (xs : List α) : List (List Ordering) :=
  xs.map fun x => xs.map (order x)

/-- Sorting is not broken off by a list, even if it is not ordered. -/
def Disorder.Settles (d : Disorder) (order : α → α → Ordering) (xs : List α) : Prop :=
  ∃ places, d.places? (comparisons order xs) = some places

/-- The list that sorting leaves. Elements are in ascending order, equal ones in the order of the
list, unless the list is long and the comparison does not order it. -/
def sort? (d : Disorder) (order : α → α → Ordering) (xs : List α) : Option (List α) :=
  if Sortable order xs then some (sort order xs)
  else (d.places? (comparisons order xs)).map fun places => places.filterMap fun i => xs[i]?

/-- One insertion adds one element. -/
theorem place_perm (order : α → α → Ordering) (x : α) (xs : List α) :
    (place order x xs).Perm (x :: xs) := by
  induction xs with
  | nil => exact .refl _
  | cons y rest ih =>
    simp only [place]
    split
    · exact (ih.cons y).trans (.swap x y rest)
    · exact .refl _

/-- Sorting keeps every element as often as it occurs. -/
theorem sort_perm (order : α → α → Ordering) (xs : List α) : (sort order xs).Perm xs := by
  have h : ∀ (acc : List α),
      (xs.foldl (fun sorted x => place order x sorted) acc).Perm (xs.reverse ++ acc) := by
    induction xs with
    | nil => exact fun acc => .refl _
    | cons x rest ih =>
      intro acc
      have h := (ih (place order x acc)).trans ((place_perm order x acc).append_left rest.reverse)
      simpa [List.reverse_cons, List.append_assoc] using h
  have h := h []
  rw [List.append_nil] at h
  exact ((List.reverse_perm _).trans h).trans (List.reverse_perm xs)

/-- The elements taken from all places in turn are those of the list. -/
theorem filterMap_range (xs : List α) :
    (List.range xs.length).filterMap (fun i => xs[i]?) = xs := by
  induction xs with
  | nil => rfl
  | cons x rest ih =>
    rw [List.length_cons, List.range_succ_eq_map, List.filterMap_cons, List.filterMap_map]
    exact congrArg (List.cons x) ih

/-- **Sorting** keeps every element as often as it occurs, also of lists in no order. -/
theorem sort?_perm {d : Disorder} {order : α → α → Ordering} {xs ys : List α}
    (h : sort? d order xs = some ys) : ys.Perm xs := by
  unfold sort? at h
  split at h
  · obtain rfl := Option.some.inj h
    exact sort_perm order xs
  · obtain ⟨places, hplaces, rfl⟩ := Option.map_eq_some_iff.1 h
    have hrange := d.perm_range hplaces
    rw [comparisons, List.length_map] at hrange
    have hperm := hrange.filterMap fun i => xs[i]?
    rwa [filterMap_range] at hperm

/-- Short lists, and those that the comparison orders, are sorted. -/
theorem sort?_of_sortable (d : Disorder) {order : α → α → Ordering} {xs : List α}
    (h : Sortable order xs) : sort? d order xs = some (sort order xs) := if_pos h

/-- **When sorting is not broken off**: all methods sort the list, or the one that is used settles
on some order. -/
theorem exists_sort?_iff {d : Disorder} {order : α → α → Ordering} {xs : List α} :
    (∃ ys, sort? d order xs = some ys) ↔ Sortable order xs ∨ d.Settles order xs := by
  by_cases h : Sortable order xs
  · exact iff_of_true ⟨_, sort?_of_sortable d h⟩ (.inl h)
  · rw [sort?, if_neg h, Disorder.Settles]
    cases d.places? (comparisons order xs) <;> simp [h]

/-- Sorting that is broken off by all lists in no order settles on none. -/
theorem not_settles_refused (order : α → α → Ordering) (xs : List α) :
    ¬ Disorder.refused.Settles order xs := by
  rintro ⟨places, hplaces⟩
  cases hplaces

/-- A comparison that orders a list orders every list of elements of it. -/
theorem Consistent.subset {order : α → α → Ordering} {xs ys : List α}
    (h : Consistent order ys) (hsub : xs ⊆ ys) : Consistent order xs := fun a ha b hb =>
  ⟨(h a (hsub ha) b (hsub hb)).1, fun c hc => (h a (hsub ha) b (hsub hb)).2 c (hsub hc)⟩

/-- Some of the elements of a list can be sorted if all of them can. -/
theorem Sortable.sublist {order : α → α → Ordering} {xs ys : List α}
    (h : Sortable order ys) (hsub : xs.Sublist ys) : Sortable order xs :=
  h.imp (Nat.le_trans hsub.length_le) fun hconsistent => hconsistent.subset hsub.subset

end Sift.Sorting
