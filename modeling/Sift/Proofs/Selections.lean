import Sift.Proofs.Sequencing
import Sift.Query.Predicate

/-!
# What a predicate selects

A predicate may break off on a record, and then nothing is selected from a list with that record. In
every other list it selects the records for which its answer is yes.

## Main definitions

* `Sift.Query.Selects`: the answer of a predicate for a record is yes.

## Main results

* `Sift.Query.select_eq_ok_iff`: what is selected, if anything is.
* `Sift.Query.select_eq_filter`: the selection of a predicate that always has an answer.
-/

set_option autoImplicit false

namespace Sift.Query

variable {R : Type} {p p' : R → Except Error Bool} {rs ms : List R}

/-- The answer of a predicate for a record is yes. -/
def Selects (p : R → Except Error Bool) (r : R) : Prop := p r = .ok true

instance (p : R → Except Error Bool) (r : R) : Decidable (Selects p r) :=
  match h : p r with
  | .ok true => .isTrue h
  | .ok false => .isFalse fun hp => by
    rw [Selects, h] at hp
    cases hp
  | .error e => .isFalse fun hp => by
    rw [Selects, h] at hp
    cases hp

/-- A selection by the answer for the first record and the selection from those after it. -/
lemma select_cons (p : R → Except Error Bool) (r : R) (rest : List R) :
    select p (r :: rest) =
      match p r with
      | .error e => .error e
      | .ok selected => (select p rest).map fun kept => if selected then r :: kept else kept := by
  rw [select]
  cases p r with
  | error e => rfl
  | ok selected => cases select p rest <;> rfl

/-- **What is selected.** There is a selection if there is an answer for every record, and then the
records with the answer yes are selected. -/
theorem select_eq_ok_iff : select p rs = .ok ms ↔
    (∀ r ∈ rs, ∃ b, p r = .ok b) ∧ rs.filter (fun r => decide (Selects p r)) = ms := by
  induction rs generalizing ms with
  | nil => simp [select]
  | cons r rest ih =>
    rw [select_cons, List.forall_mem_cons, List.filter_cons]
    cases hr : p r with
    | error e => simp
    | ok selected =>
      have hselected : decide (Selects p r) = selected := by
        cases selected <;> simp [Selects, hr]
      have hanswer : ∃ b, Except.ok (ε := Error) selected = .ok b := ⟨selected, rfl⟩
      cases hrest : select p rest with
      | error e =>
        have hnone : ¬ ∀ r ∈ rest, ∃ b, p r = .ok b := fun h => by
          rw [ih.2 ⟨h, rfl⟩] at hrest
          cases hrest
        exact ⟨nofun, fun h => absurd h.1.2 hnone⟩
      | ok kept =>
        obtain ⟨hall, hkept⟩ := ih.1 hrest
        rw [hselected, hkept]
        exact ⟨fun h => ⟨⟨hanswer, hall⟩, Except.ok.inj h⟩, fun h => congrArg Except.ok h.2⟩

/-- There is a selection if there is an answer for every record. -/
lemma exists_select_iff : (∃ ms, select p rs = .ok ms) ↔ ∀ r ∈ rs, ∃ b, p r = .ok b := by
  simp only [select_eq_ok_iff, exists_and_left, exists_eq', and_true]

/-- A selection fails with the answer for one of the records. -/
lemma exists_error_of_select {e : Error} (h : select p rs = .error e) :
    ∃ r ∈ rs, p r = .error e := by
  induction rs with
  | nil => cases h
  | cons r rest ih =>
    rw [select_cons] at h
    cases hr : p r with
    | error e' =>
      rw [hr] at h
      exact ⟨r, List.mem_cons_self, Except.error.inj h ▸ hr⟩
    | ok selected =>
      rw [hr] at h
      obtain ⟨s, hs, he⟩ := ih (Sequencing.eq_error_of_map h)
      exact ⟨s, List.mem_cons_of_mem r hs, he⟩

/-- **Selections of a predicate that always has an answer.** -/
theorem select_eq_filter {f : R → Bool} (h : ∀ r ∈ rs, p r = .ok (f r)) :
    select p rs = .ok (rs.filter f) :=
  select_eq_ok_iff.2 ⟨fun r hr => ⟨f r, h r hr⟩, List.filter_congr fun r hr => by
    simp [Selects, h r hr]⟩

/-- Where the answer is always yes, every record is selected. -/
lemma select_true (rs : List R) : select (fun _ => .ok true) rs = .ok rs := by
  induction rs with
  | nil => rfl
  | cons r rest ih =>
    rw [select_cons, ih]
    rfl

/-- **Selections one after the other.** A predicate that asks another one where the first one says
yes selects from what the first one selects. -/
theorem select_of_select {p₂ : R → Except Error Bool} {ns : List R} (h : select p rs = .ok ms)
    (h' : select p' ms = .ok ns) (hand : ∀ r ∈ rs, p₂ r = [p, p'].allM fun p => p r) :
    select p₂ rs = .ok ns := by
  induction rs generalizing ms ns with
  | nil =>
    obtain rfl := Except.ok.inj h
    exact h'
  | cons r rest ih =>
    have hr := hand r List.mem_cons_self
    have hrest := fun s hs => hand s (List.mem_cons_of_mem r hs)
    rw [select_cons] at h ⊢
    rw [hr, Sequencing.allM_cons]
    cases hp : p r with
    | error e =>
      rw [hp] at h
      cases h
    | ok selected =>
      rw [hp] at h
      obtain ⟨kept, hkept, rfl⟩ := Sequencing.exists_ok_of_map h
      cases selected with
      | false =>
        dsimp only
        rw [ih hkept h' hrest]
        rfl
      | true =>
        rw [if_pos rfl, select_cons] at h'
        dsimp only
        rw [Sequencing.allM_cons]
        cases hp' : p' r with
        | error e =>
          rw [hp'] at h'
          cases h'
        | ok both =>
          rw [hp'] at h'
          obtain ⟨kept', hkept', rfl⟩ := Sequencing.exists_ok_of_map h'
          cases both with
          | false =>
            dsimp only
            rw [ih hkept hkept' hrest]
            rfl
          | true =>
            dsimp only
            rw [List.allM_nil, ih hkept hkept' hrest]
            rfl

/-- What is selected are the records with the answer yes. -/
lemma mem_select (h : select p rs = .ok ms) {r : R} : r ∈ ms ↔ r ∈ rs ∧ p r = .ok true := by
  obtain ⟨-, rfl⟩ := select_eq_ok_iff.1 h
  rw [List.mem_filter, decide_eq_true_eq]
  exact Iff.rfl

/-- A selection keeps the order of the records. -/
lemma select_sublist (h : select p rs = .ok ms) : ms.Sublist rs := by
  obtain ⟨-, rfl⟩ := select_eq_ok_iff.1 h
  exact List.filter_sublist

end Sift.Query
