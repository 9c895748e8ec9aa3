import Mathlib.Tactic.Lemma
import Sift.Error

/-!
# Steps that may fail, one after the other

The parts of queries and aggregations are compiled, expanded and computed from left to right, and
the first failure is the failure of the whole. Every such pass is a `List.mapM`, so that a few laws
about it carry what is known of one part over to all parts.

## Main definitions

* `Sift.Supported`: an outcome that is no refusal of something unsupported.

## Main results

* `Sift.Sequencing.mapM_eq_ok_iff`: a pass succeeds if every step does.
* `Sift.Sequencing.exists_error_of_mapM`: the failure of a pass is the failure of a step.
* `Sift.Sequencing.mapM_map_result`: what is done with every result can be done in every step.
* `Sift.Sequencing.allM_eq_true_iff`, `Sift.Sequencing.anyM_eq_false_iff`: questions about all
  elements of a list.
-/

set_option autoImplicit false

namespace Sift

namespace Sequencing

variable {ε α β γ : Type} {f : α → Except ε β} {xs : List α} {ys : List β}

/-- What is done with the result of a step does not change its failure. -/
lemma eq_error_of_map {x : Except ε α} {g : α → β} {e : ε} (h : x.map g = .error e) :
    x = .error e := by
  cases x with
  | error e' => exact congrArg Except.error (Except.error.inj h)
  | ok a => cases h

/-- What is done with the result of a step is done with a result. -/
lemma exists_ok_of_map {x : Except ε α} {g : α → β} {b : β} (h : x.map g = .ok b) :
    ∃ a, x = .ok a ∧ g a = b := by
  cases x with
  | error e => cases h
  | ok a => exact ⟨a, rfl, Except.ok.inj h⟩

/-- Another account of a failure does not change a result. -/
lemma eq_ok_of_mapError {δ : Type} {x : Except ε α} {g : ε → δ} {a : α}
    (h : x.mapError g = .ok a) : x = .ok a := by
  cases x with
  | error e => cases h
  | ok a' => exact congrArg Except.ok (Except.ok.inj h)

/-- A pass over a list by the outcomes of its first step and of the steps after it. -/
lemma mapM_cons (f : α → Except ε β) (x : α) (rest : List α) :
    (x :: rest).mapM f =
      match f x with
      | .error e => .error e
      | .ok y =>
        match rest.mapM f with
        | .error e => .error e
        | .ok ys => .ok (y :: ys) := by
  rw [List.mapM_cons]
  cases f x with
  | error e => rfl
  | ok y => cases rest.mapM f <;> rfl

/-- **Success.** A pass gives a list of results exactly when each step gives the result at its
place. -/
theorem mapM_eq_ok_iff : xs.mapM f = .ok ys ↔ xs.map f = ys.map Except.ok := by
  induction xs generalizing ys with
  | nil => cases ys <;> simp [pure, Except.pure]
  | cons x rest ih =>
    rw [mapM_cons, List.map_cons]
    cases hx : f x with
    | error e => cases ys <;> simp
    | ok y =>
      cases hrest : rest.mapM f with
      | error e =>
        cases ys with
        | nil => simp
        | cons z zs =>
          have hne : rest.map f ≠ zs.map Except.ok := fun h => by
            rw [ih.2 h] at hrest
            cases hrest
          simp [hne]
      | ok zs =>
        have hzs : rest.map f = zs.map Except.ok := ih.1 hrest
        cases ys with
        | nil => simp
        | cons w ws => simp [hzs, List.map_inj_right fun _ _ => Except.ok.inj]

/-- Every step of a pass that succeeds gives one of the results. -/
lemma exists_result (h : xs.mapM f = .ok ys) {x : α} (hx : x ∈ xs) : ∃ y ∈ ys, f x = .ok y := by
  have hmem : f x ∈ ys.map Except.ok := mapM_eq_ok_iff.1 h ▸ List.mem_map_of_mem hx
  obtain ⟨y, hy, hfy⟩ := List.mem_map.1 hmem
  exact ⟨y, hy, hfy.symm⟩

/-- Every result of a pass that succeeds comes from one of the steps. -/
lemma exists_step (h : xs.mapM f = .ok ys) {y : β} (hy : y ∈ ys) : ∃ x ∈ xs, f x = .ok y := by
  have hmem : Except.ok y ∈ xs.map f := mapM_eq_ok_iff.1 h ▸ List.mem_map_of_mem hy
  exact List.mem_map.1 hmem

/-- What every result tells about its step, all results tell about all steps. -/
lemma map_eq_of_mapM {g : β → γ} {k : α → γ} (h : xs.mapM f = .ok ys)
    (hg : ∀ x y, f x = .ok y → g y = k x) : ys.map g = xs.map k := by
  induction xs generalizing ys with
  | nil =>
    obtain rfl := Except.ok.inj h
    rfl
  | cons x rest ih =>
    rw [mapM_cons] at h
    split at h
    · cases h
    · rename_i y hy
      split at h
      · cases h
      · rename_i zs hzs
        obtain rfl := Except.ok.inj h
        rw [List.map_cons, List.map_cons, hg x y hy, ih hzs]

/-- What undoes a computation on every element undoes it on a list. -/
lemma map_of_mapM {g : β → α} (h : xs.mapM f = .ok ys) (hg : ∀ x y, f x = .ok y → g y = x) :
    ys.map g = xs := (map_eq_of_mapM h hg).trans (List.map_id xs)

/-- A property of all results is a property of all steps. -/
lemma forall_result_iff {P : β → Prop} {Q : α → Prop} (h : xs.mapM f = .ok ys)
    (hpq : ∀ x ∈ xs, ∀ y, f x = .ok y → (P y ↔ Q x)) : (∀ y ∈ ys, P y) ↔ ∀ x ∈ xs, Q x := by
  constructor
  · intro hys x hx
    obtain ⟨y, hy, hxy⟩ := exists_result h hx
    exact (hpq x hx y hxy).1 (hys y hy)
  · intro hxs y hy
    obtain ⟨x, hx, hxy⟩ := exists_step h hy
    exact (hpq x hx y hxy).2 (hxs x hx)

/-- **Failure.** The failure of a pass is the failure of one of its steps. -/
theorem exists_error_of_mapM {e : ε} (h : xs.mapM f = .error e) : ∃ x ∈ xs, f x = .error e := by
  induction xs with
  | nil => cases h
  | cons x rest ih =>
    rw [mapM_cons] at h
    cases hx : f x with
    | error e' =>
      rw [hx] at h
      cases h
      exact ⟨x, List.mem_cons_self, hx⟩
    | ok y =>
      cases hrest : rest.mapM f with
      | ok ys =>
        rw [hx, hrest] at h
        cases h
      | error e' =>
        rw [hx, hrest] at h
        cases h
        obtain ⟨z, hz, hfz⟩ := ih hrest
        exact ⟨z, List.mem_cons_of_mem x hz, hfz⟩

/-- What is done with the result of a step does not decide whether there is one. -/
lemma exists_ok_map_iff {x : Except ε α} {g : α → β} :
    (∃ b, x.map g = .ok b) ↔ ∃ a, x = .ok a := by
  constructor
  · rintro ⟨b, hb⟩
    obtain ⟨a, ha, -⟩ := exists_ok_of_map hb
    exact ⟨a, ha⟩
  · rintro ⟨a, rfl⟩
    exact ⟨g a, rfl⟩

/-- A pass succeeds if every step does. -/
lemma exists_ok_mapM_iff : (∃ ys, xs.mapM f = .ok ys) ↔ ∀ x ∈ xs, ∃ y, f x = .ok y := by
  constructor
  · rintro ⟨ys, h⟩ x hx
    obtain ⟨y, -, hy⟩ := exists_result h hx
    exact ⟨y, hy⟩
  · intro h
    cases hxs : xs.mapM f with
    | ok ys => exact ⟨ys, rfl⟩
    | error e =>
      obtain ⟨x, hx, hfx⟩ := exists_error_of_mapM hxs
      obtain ⟨y, hy⟩ := h x hx
      rw [hfx] at hy
      cases hy

/-- A pass of steps that change nothing changes nothing. -/
lemma mapM_eq_self {f : α → Except ε α} (h : ∀ x ∈ xs, f x = .ok x) : xs.mapM f = .ok xs :=
  mapM_eq_ok_iff.2 (List.map_congr_left h)

/-- Passes of the same steps have the same outcome. -/
lemma mapM_congr {g : α → Except ε β} (h : ∀ x ∈ xs, f x = g x) : xs.mapM f = xs.mapM g := by
  induction xs with
  | nil => rfl
  | cons x rest ih =>
    rw [mapM_cons, mapM_cons, h x List.mem_cons_self,
      ih fun y hy => h y (List.mem_cons_of_mem x hy)]

/-- What is done with every result of a pass can be done at the end of every step. -/
theorem mapM_map_result (f : α → Except ε β) (g : β → γ) (xs : List α) :
    (xs.mapM fun x => (f x).map g) = (xs.mapM f).map (List.map g) := by
  induction xs with
  | nil => rfl
  | cons x rest ih =>
    rw [mapM_cons, mapM_cons, ih]
    cases f x with
    | error e => rfl
    | ok y => cases rest.mapM f <;> rfl

/-! ### Questions -/

/-- A question about all elements by the answers for the first one and for those after it. -/
lemma allM_cons (f : α → Except ε Bool) (x : α) (rest : List α) :
    (x :: rest).allM f =
      match f x with
      | .error e => .error e
      | .ok true => rest.allM f
      | .ok false => .ok false := by
  rw [List.allM_cons]
  rcases f x with e | ⟨_ | _⟩ <;> rfl

/-- A question about some element by the answers for the first one and for those after it. -/
lemma anyM_cons (f : α → Except ε Bool) (x : α) (rest : List α) :
    (x :: rest).anyM f =
      match f x with
      | .error e => .error e
      | .ok true => .ok true
      | .ok false => rest.anyM f := by
  rw [List.anyM_cons]
  rcases f x with e | ⟨_ | _⟩ <;> rfl

/-- What holds of every element holds of all of them. -/
theorem allM_eq_true_iff {f : α → Except ε Bool} :
    xs.allM f = .ok true ↔ ∀ x ∈ xs, f x = .ok true := by
  induction xs with
  | nil => simp [pure, Except.pure]
  | cons x rest ih =>
    rw [allM_cons, List.forall_mem_cons, ← ih]
    rcases f x with e | ⟨_ | _⟩ <;> simp

/-- What holds of no element does not hold of some element. -/
theorem anyM_eq_false_iff {f : α → Except ε Bool} :
    xs.anyM f = .ok false ↔ ∀ x ∈ xs, f x = .ok false := by
  induction xs with
  | nil => simp [pure, Except.pure]
  | cons x rest ih =>
    rw [anyM_cons, List.forall_mem_cons, ← ih]
    rcases f x with e | ⟨_ | _⟩ <;> simp

/-- If some element has a property, then one of them does. -/
lemma exists_of_anyM {f : α → Except ε Bool} (h : xs.anyM f = .ok true) :
    ∃ x ∈ xs, f x = .ok true := by
  induction xs with
  | nil => cases h
  | cons x rest ih =>
    rw [anyM_cons] at h
    split at h
    · cases h
    · exact ⟨x, List.mem_cons_self, ‹_›⟩
    · obtain ⟨y, hy, hfy⟩ := ih h
      exact ⟨y, List.mem_cons_of_mem x hy, hfy⟩

/-- If not all elements have a property, then one of them does not. -/
lemma exists_of_allM {f : α → Except ε Bool} (h : xs.allM f = .ok false) :
    ∃ x ∈ xs, f x = .ok false := by
  induction xs with
  | nil => cases h
  | cons x rest ih =>
    rw [allM_cons] at h
    split at h
    · cases h
    · obtain ⟨y, hy, hfy⟩ := ih h
      exact ⟨y, List.mem_cons_of_mem x hy, hfy⟩
    · exact ⟨x, List.mem_cons_self, ‹_›⟩

/-- The same questions have the same answer. -/
lemma allM_congr {f g : α → Except ε Bool} (h : ∀ x ∈ xs, f x = g x) :
    xs.allM f = xs.allM g := by
  induction xs with
  | nil => rfl
  | cons x rest ih =>
    rw [allM_cons, allM_cons, h x List.mem_cons_self,
      ih fun y hy => h y (List.mem_cons_of_mem x hy)]

/-- The same questions have the same answer. -/
lemma anyM_congr {f g : α → Except ε Bool} (h : ∀ x ∈ xs, f x = g x) :
    xs.anyM f = xs.anyM g := by
  induction xs with
  | nil => rfl
  | cons x rest ih =>
    rw [anyM_cons, anyM_cons, h x List.mem_cons_self,
      ih fun y hy => h y (List.mem_cons_of_mem x hy)]

/-- A question about all elements fails with a question about one of them. -/
lemma exists_error_of_allM {f : α → Except ε Bool} {e : ε} (h : xs.allM f = .error e) :
    ∃ x ∈ xs, f x = .error e := by
  induction xs with
  | nil => cases h
  | cons x rest ih =>
    rw [allM_cons] at h
    split at h
    · exact ⟨x, List.mem_cons_self, Except.error.inj h ▸ ‹_›⟩
    · obtain ⟨y, hy, hfy⟩ := ih h
      exact ⟨y, List.mem_cons_of_mem x hy, hfy⟩
    · cases h

/-- A question about some element fails with a question about one of them. -/
lemma exists_error_of_anyM {f : α → Except ε Bool} {e : ε} (h : xs.anyM f = .error e) :
    ∃ x ∈ xs, f x = .error e := by
  induction xs with
  | nil => cases h
  | cons x rest ih =>
    rw [anyM_cons] at h
    split at h
    · exact ⟨x, List.mem_cons_self, Except.error.inj h ▸ ‹_›⟩
    · cases h
    · obtain ⟨y, hy, hfy⟩ := ih h
      exact ⟨y, List.mem_cons_of_mem x hy, hfy⟩

/-- If there is an answer for every element, then there is one for all of them. -/
lemma exists_ok_allM {f : α → Except ε Bool} (h : ∀ x ∈ xs, ∃ b, f x = .ok b) :
    ∃ b, xs.allM f = .ok b := by
  cases hall : xs.allM f with
  | ok b => exact ⟨b, rfl⟩
  | error e =>
    obtain ⟨x, hx, hfx⟩ := exists_error_of_allM hall
    obtain ⟨b, hb⟩ := h x hx
    cases hfx.symm.trans hb

/-- If there is an answer for every element, then there is one for some of them. -/
lemma exists_ok_anyM {f : α → Except ε Bool} (h : ∀ x ∈ xs, ∃ b, f x = .ok b) :
    ∃ b, xs.anyM f = .ok b := by
  cases hany : xs.anyM f with
  | ok b => exact ⟨b, rfl⟩
  | error e =>
    obtain ⟨x, hx, hfx⟩ := exists_error_of_anyM hany
    obtain ⟨b, hb⟩ := h x hx
    cases hfx.symm.trans hb

end Sequencing

/-! ## Refusals -/

/-- An outcome that is anything but the refusal of something as unsupported. -/
def Supported {α : Type} (x : Except Error α) : Prop := ∀ s, x ≠ .error (.unsupported s)

namespace Supported

variable {α β : Type}

/-- A result says nothing about support. -/
lemma ok (a : α) : Supported (.ok a) := fun _ => nofun

/-- A query that is wrong is supported. -/
lemma invalidQuery (reason : String) :
    Supported (.error (.invalidQuery reason) : Except Error α) := fun _ => nofun

/-- A computation that is broken off says nothing about support. -/
lemma crash : Supported (.error .crash : Except Error α) := fun _ => nofun

/-- What can only be broken off is no refusal. -/
lemma of_crash {x : Except Error α} (h : ∀ e, x = .error e → e = .crash) : Supported x := by
  intro s hs
  cases h _ hs

/-- A failure of one step that is the failure of a longer one. -/
lemma error {x : Except Error α} {e : Error} (h : Supported x) (he : x = .error e) :
    Supported (.error e : Except Error β) := by
  intro s hs
  rw [Except.error.inj hs] at he
  exact h s he

/-- What is done with a result does not matter for support. -/
lemma map {x : Except Error α} (h : Supported x) (g : α → β) : Supported (x.map g) :=
  fun s hs => h s (Sequencing.eq_error_of_map hs)

/-- A pass of steps without refusals. -/
theorem mapM {xs : List α} {f : α → Except Error β} (h : ∀ x ∈ xs, Supported (f x)) :
    Supported (xs.mapM f) := by
  intro s hs
  obtain ⟨x, hx, hfx⟩ := Sequencing.exists_error_of_mapM hs
  exact h x hx s hfx

end Supported

end Sift
