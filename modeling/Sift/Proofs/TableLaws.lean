import Mathlib.Tactic.Lemma
import Sift.Table

/-!
# Tables as finite maps

A table in key order is determined by its look-ups: what is stored under a key is an entry of the
table, every entry can be looked up, and two tables that answer all look-ups alike are the same
list. Changing every value keeps the keys and commutes with all that builds tables.

## Main definitions

* `Sift.Table.mapValues`: the table with other values.

## Main results

* `Sift.Table.Sorted.find?_eq_some_iff`: look-up finds the entries.
* `Sift.Table.Sorted.ext`: tables with the same look-ups are equal.
* `Sift.Table.ofList_mapValues`: building a table commutes with changing its values.
-/

set_option autoImplicit false

namespace Sift.Table

variable {α β : Type} {key : String} {value : α} {t u : Table α}

/-! ## Look-ups and entries -/

/-- What is found is in the table. -/
lemma mem_of_find? (h : find? key t = some value) : (key, value) ∈ t := by
  induction t with
  | nil => cases h
  | cons e rest ih =>
    obtain ⟨k, w⟩ := e
    rw [find?] at h
    by_cases hk : k = key
    · rw [if_pos hk] at h
      rw [← hk, Option.some.inj h]
      exact List.mem_cons_self
    · rw [if_neg hk] at h
      exact List.mem_cons_of_mem _ (ih h)

/-- A key that is somewhere in a table can be looked up. -/
lemma exists_find?_of_mem (h : (key, value) ∈ t) : ∃ w, find? key t = some w := by
  induction t with
  | nil => cases h
  | cons e rest ih =>
    obtain ⟨k, w⟩ := e
    rw [find?]
    by_cases hk : k = key
    · exact ⟨w, if_pos hk⟩
    · rw [if_neg hk]
      rcases List.mem_cons.1 h with h | h
      · exact absurd (congrArg Prod.fst h).symm hk
      · exact ih h

/-- In a table in key order no other entry has the key of an entry. -/
lemma Sorted.eq_of_mem (ht : Sorted t) {v w : α} (hv : (key, v) ∈ t) (hw : (key, w) ∈ t) :
    v = w := by
  induction t with
  | nil => cases hv
  | cons e rest ih =>
    obtain ⟨hhead, hrest⟩ := List.pairwise_cons.1 ht
    have hne : ∀ x : α, (key, x) ∈ rest → e.1 ≠ key := by
      intro x hx he
      have hlt : e.1 < key := hhead (key, x) hx
      rw [he] at hlt
      exact String.lt_irrefl key hlt
    rcases List.mem_cons.1 hv with he | hv'
    · rcases List.mem_cons.1 hw with he' | hw'
      · exact congrArg Prod.snd (he.trans he'.symm)
      · exact absurd (congrArg Prod.fst he).symm (hne w hw')
    · rcases List.mem_cons.1 hw with he' | hw'
      · exact absurd (congrArg Prod.fst he').symm (hne v hv')
      · exact ih hrest hv' hw'

/-- **Look-up finds the entries** of a table in key order. -/
theorem Sorted.find?_eq_some_iff (ht : Sorted t) : find? key t = some value ↔ (key, value) ∈ t := by
  constructor
  · exact mem_of_find?
  · intro h
    obtain ⟨w, hw⟩ := exists_find?_of_mem h
    rw [hw, ht.eq_of_mem h (mem_of_find? hw)]

/-- A sorted table has no entry twice. -/
lemma Sorted.nodup (ht : Sorted t) : t.Nodup := by
  refine List.Pairwise.imp (fun {a b} hab heq => ?_) ht
  subst heq
  exact String.lt_irrefl a.1 hab

/-- **Extensionality.** Tables in key order that answer all look-ups alike are equal. -/
theorem Sorted.ext (ht : Sorted t) (hu : Sorted u) (h : ∀ key, find? key t = find? key u) :
    t = u := by
  have hperm : t.Perm u := (List.perm_ext_iff_of_nodup ht.nodup hu.nodup).2 fun e => by
    obtain ⟨k, v⟩ := e
    rw [← ht.find?_eq_some_iff, ← hu.find?_eq_some_iff, h k]
  refine List.Perm.eq_of_pairwise (fun a b _ _ hab hba => ?_) ht hu hperm
  exact absurd (String.lt_trans hab hba) (String.lt_irrefl a.1)

/-! ## Building tables -/

/-- What is in a table after insertions was inserted, or was there before. -/
lemma mem_foldl_insert {entries : List (String × α)} {e : String × α}
    (h : e ∈ entries.foldl (fun t e => insert e.1 e.2 t) t) : e ∈ entries ∨ e ∈ t := by
  induction entries generalizing t with
  | nil => exact .inr h
  | cons x rest ih =>
    rcases ih h with h | h
    · exact .inl (List.mem_cons_of_mem x h)
    · rcases mem_insert h with rfl | h
      · exact .inl List.mem_cons_self
      · exact .inr h

/-- A table of a list of entries holds nothing else. -/
lemma mem_of_mem_ofList {entries : List (String × α)} {e : String × α}
    (h : e ∈ ofList entries) : e ∈ entries :=
  (mem_foldl_insert h).resolve_right List.not_mem_nil

/-- The table with other values under the same keys. -/
def mapValues (f : α → β) (t : Table α) : Table β := t.map fun e => (e.1, f e.2)

/-- Other values leave a table sorted. -/
theorem Sorted.mapValues (ht : Sorted t) (f : α → β) : Sorted (mapValues f t) :=
  List.Pairwise.map _ (fun _ _ h => h) ht

/-- Values can be replaced before or after an insertion. -/
lemma insert_mapValues (f : α → β) (key : String) (value : α) (t : Table α) :
    insert key (f value) (mapValues f t) = mapValues f (insert key value t) := by
  induction t with
  | nil => rfl
  | cons e rest ih =>
    obtain ⟨k, v⟩ := e
    simp only [mapValues, List.map_cons, insert] at ih ⊢
    split
    · rfl
    · split
      · rfl
      · rw [ih, List.map_cons]

/-- Building a table commutes with changing its values. -/
theorem ofList_mapValues (f : α → β) (entries : List (String × α)) :
    ofList (entries.map fun e => (e.1, f e.2)) = mapValues f (ofList entries) := by
  have h : ∀ t : Table α,
      (entries.map fun e => (e.1, f e.2)).foldl (fun t e => insert e.1 e.2 t) (mapValues f t) =
        mapValues f (entries.foldl (fun t e => insert e.1 e.2 t) t) := by
    induction entries with
    | nil => exact fun t => rfl
    | cons e rest ih =>
      intro t
      rw [List.map_cons, List.foldl_cons, List.foldl_cons]
      show List.foldl _ (insert e.1 (f e.2) (mapValues f t)) _ = _
      rw [insert_mapValues, ih]
  exact h []

end Sift.Table
