/-!
# Tables in key order

A table is a list of entries with distinct keys in ascending order. Keys are compared character by
character, which is also the byte order of their UTF-8 form. Objects of JSON documents, named
definitions and the entities of a store are all kept in this way, so that the order in which
entries are visited never depends on the order in which they were written.

## Main definitions

* `Sift.Table.find?`, `Sift.Table.insert`, `Sift.Table.erase`: the operations.
* `Sift.Table.Sorted`: the invariant.

## Main results

* `Sift.Table.sorted_insert`, `Sift.Table.sorted_erase`: the operations keep the invariant.
* `Sift.Table.find?_insert`, `Sift.Table.find?_erase`: what a later look-up sees.
-/

set_option autoImplicit false

namespace Sift

/-- Entries of a key and a value. Inductive types that hold tables of themselves spell the list
out. -/
abbrev Table (α : Type) := List (String × α)

namespace Table

variable {α β : Type}

/-- The value stored under a key. -/
def find? (key : String) : Table α → Option α
  | [] => none
  | (k, v) :: rest => if k = key then some v else find? key rest

/-- Whether a key is present. -/
def contains (key : String) (t : Table α) : Bool := (find? key t).isSome

/-- Stores a value under a key, in place of an earlier one. -/
def insert (key : String) (value : α) : Table α → Table α
  | [] => [(key, value)]
  | (k, v) :: rest =>
    if key < k then (key, value) :: (k, v) :: rest
    else if key = k then (key, value) :: rest
    else (k, v) :: insert key value rest

/-- Removes a key. -/
def erase (key : String) (t : Table α) : Table α := t.filter fun e => e.1 ≠ key

/-- The table of a list of entries, where later entries replace earlier ones. -/
def ofList (entries : List (String × α)) : Table α :=
  entries.foldl (fun t e => insert e.1 e.2 t) []

/-- The entries of both tables, those of the second one where both have a key. -/
def union (t u : Table α) : Table α := u.foldl (fun t e => insert e.1 e.2 t) t

/-- Applies a function to every value, in key order, and stops at the first failure. -/
def mapM {ε : Type} (f : α → Except ε β) : Table α → Except ε (Table β)
  | [] => .ok []
  | (k, v) :: rest =>
    match f v with
    | .error e => .error e
    | .ok w =>
      match mapM f rest with
      | .error e => .error e
      | .ok rest => .ok ((k, w) :: rest)

/-- The invariant: keys ascend, so that no key occurs twice. -/
def Sorted (t : Table α) : Prop := t.Pairwise fun a b => a.1 < b.1

/-- The empty table is sorted. -/
theorem sorted_nil : Sorted ([] : Table α) := List.Pairwise.nil

/-- Every key of the result of an insertion is the new key or an old one. -/
theorem mem_insert {key : String} {value : α} {t : Table α} {e : String × α}
    (h : e ∈ insert key value t) : e = (key, value) ∨ e ∈ t := by
  induction t with
  | nil => simpa [insert] using h
  | cons head rest ih =>
    obtain ⟨k, v⟩ := head
    simp only [insert] at h
    split at h
    · simpa using h
    · split at h
      · rcases List.mem_cons.1 h with h | h
        · exact .inl h
        · exact .inr (List.mem_cons_of_mem _ h)
      · rcases List.mem_cons.1 h with h | h
        · exact .inr (h ▸ List.mem_cons_self)
        · exact (ih h).imp id (List.mem_cons_of_mem _)

/-- An insertion keeps a table sorted. -/
theorem sorted_insert {t : Table α} (h : Sorted t) (key : String) (value : α) :
    Sorted (insert key value t) := by
  induction t with
  | nil => exact List.pairwise_singleton _ _
  | cons head rest ih =>
    obtain ⟨k, v⟩ := head
    have hrest : Sorted rest := List.Pairwise.of_cons h
    have hk : ∀ e ∈ rest, k < e.1 := (List.pairwise_cons.1 h).1
    simp only [insert]
    split
    · rename_i hlt
      refine List.pairwise_cons.2 ⟨fun e he => ?_, h⟩
      rcases List.mem_cons.1 he with rfl | he
      · exact hlt
      · exact String.lt_trans hlt (hk e he)
    · split
      · rename_i heq
        exact List.pairwise_cons.2 ⟨fun e he => heq ▸ hk e he, hrest⟩
      · rename_i hnlt hne
        have hlt : k < key := Classical.byContradiction fun h' =>
          hne (String.le_antisymm (String.not_lt.1 h') (String.not_lt.1 hnlt))
        refine List.pairwise_cons.2 ⟨fun e he => ?_, ih hrest⟩
        rcases mem_insert he with rfl | he
        · exact hlt
        · exact hk e he

/-- A removal keeps a table sorted. -/
theorem sorted_erase {t : Table α} (h : Sorted t) (key : String) : Sorted (erase key t) :=
  List.Pairwise.filter _ h

/-- Any number of insertions keeps a table sorted. -/
theorem sorted_foldl_insert {t : Table α} (h : Sorted t) (entries : List (String × α)) :
    Sorted (entries.foldl (fun t e => insert e.1 e.2 t) t) := by
  induction entries generalizing t with
  | nil => exact h
  | cons e rest ih => exact ih (sorted_insert h e.1 e.2)

/-- A table that is made from a list is sorted. -/
theorem sorted_ofList (entries : List (String × α)) : Sorted (ofList entries) :=
  sorted_foldl_insert sorted_nil entries

/-- A look-up after an insertion. -/
theorem find?_insert (key key' : String) (value : α) (t : Table α) :
    find? key' (insert key value t) = if key' = key then some value else find? key' t := by
  induction t with
  | nil =>
    simp only [insert, find?]
    by_cases hk : key = key'
    · simp [hk]
    · simp [hk, Ne.symm hk]
  | cons head rest ih =>
    obtain ⟨k, v⟩ := head
    simp only [insert]
    split
    · simp only [find?]
      by_cases hk : key = key'
      · simp [hk]
      · simp [hk, Ne.symm hk]
    · split
      · rename_i heq
        subst heq
        simp only [find?]
        by_cases hk : key = key'
        · simp [hk]
        · simp [hk, Ne.symm hk]
      · rename_i hne
        simp only [find?, ih]
        by_cases hk : k = key'
        · subst hk; simp [Ne.symm hne]
        · simp [hk]

/-- A look-up after a removal. -/
theorem find?_erase (key key' : String) (t : Table α) :
    find? key' (erase key t) = if key' = key then none else find? key' t := by
  induction t with
  | nil => simp [erase, find?]
  | cons head rest ih =>
    obtain ⟨k, v⟩ := head
    simp only [erase] at ih
    simp only [erase, List.filter_cons, find?]
    by_cases hk : k = key
    · subst hk
      by_cases hk' : key' = k
      · subst hk'; simpa using ih
      · simp only [ne_eq, not_true_eq_false, decide_false, Bool.false_eq_true, if_false, ih, hk']
        simp [Ne.symm hk']
    · by_cases hk' : k = key'
      · subst hk'; simp [hk, find?]
      · simpa [hk, hk', find?] using ih

end Table

end Sift
