import Mathlib.Data.List.Perm.Subperm
import Sift.Proofs.Expansion

/-!
# Where the expansion of aggregations ends

The expansion of an aggregation goes on inside what it has put in the place of a name, so that a
definition in which its own name is met again is expanded forever. Here the expansion is a relation
between aggregations and outcomes, without any bound on how deeply definitions are nested: an
aggregation without an outcome is one whose expansion does not come to an end. This happens exactly
if a name is met whose definition leads back to the name. The expansion with as many levels as there
are definitions finds every outcome, and the absence of one.

## Main definitions

* `Sift.Vocabulary.unfold`: one step of the expansion.
* `Sift.Vocabulary.Expands`, `Sift.Vocabulary.ExpandsAll`: the outcomes of the expansion.
* `Sift.Vocabulary.Enters`: the definitions that the expansion gets into.
* `Sift.Vocabulary.Recursive`: a definition that leads back to its name.

## Main results

* `Sift.Vocabulary.Expands.unique`: there is at most one outcome.
* `Sift.Vocabulary.expands_of_ends`: what is found within a depth is an outcome.
* `Sift.Vocabulary.exists_chain`: what is not found within a depth enters as many names.
* `Sift.Vocabulary.expands_iff`: when the expansion ends, and how.
-/

set_option autoImplicit false

namespace Sift

namespace Vocabulary

/-! ## The expansion without a bound -/

/-- One step of the expansion: in the place of a name comes its definition, with what is inside the
name behind what is inside the definition. -/
def unfold (v : Vocabulary) (a : Aggregation) : Except NameError Aggregation :=
  match a.kind with
  | .named name =>
    match Table.find? name v.aggregations with
    | none => .error (.unknown name)
    | some d => .ok (d.merge a.key a.extensions a.minDocCount (d.aggs ++ a.aggs))
  | _ => .ok a

mutual

/-- The outcome of the expansion of an aggregation: after one step it goes on inside. -/
inductive Expands (v : Vocabulary) : Aggregation → Except NameError Aggregation → Prop where
  /-- The aggregation is a name without a definition. -/
  | refused {a : Aggregation} {e : NameError} (h : v.unfold a = .error e) : Expands v a (.error e)
  /-- There is a failure inside. -/
  | stopped {a a₁ : Aggregation} {e : NameError} (h : v.unfold a = .ok a₁)
      (hin : ExpandsAll v a₁.aggs (.error e)) : Expands v a (.error e)
  /-- Everything inside is expanded. -/
  | done {a a₁ : Aggregation} {aggs : List Aggregation} (h : v.unfold a = .ok a₁)
      (hin : ExpandsAll v a₁.aggs (.ok aggs)) : Expands v a (.ok { a₁ with aggs := aggs })

/-- The outcome of the expansion of several aggregations in their order, up to the first failure. -/
inductive ExpandsAll (v : Vocabulary) :
    List Aggregation → Except NameError (List Aggregation) → Prop where
  /-- There are none. -/
  | nil : ExpandsAll v [] (.ok [])
  /-- The first one fails. -/
  | first {a : Aggregation} {rest : List Aggregation} {e : NameError}
      (h : Expands v a (.error e)) : ExpandsAll v (a :: rest) (.error e)
  /-- A later one fails. -/
  | later {a a' : Aggregation} {rest : List Aggregation} {e : NameError}
      (h : Expands v a (.ok a')) (hrest : ExpandsAll v rest (.error e)) :
      ExpandsAll v (a :: rest) (.error e)
  /-- All are expanded. -/
  | cons {a a' : Aggregation} {rest rest' : List Aggregation}
      (h : Expands v a (.ok a')) (hrest : ExpandsAll v rest (.ok rest')) :
      ExpandsAll v (a :: rest) (.ok (a' :: rest'))

end

/-- The names whose definitions the expansion of several aggregations gets into. It gets into a
later aggregation only when those before it are expanded. -/
inductive Enters (v : Vocabulary) : List Aggregation → String → Prop where
  /-- The first aggregation is the name. -/
  | here {a d : Aggregation} {rest : List Aggregation} {name : String} (ha : a.kind = .named name)
      (hd : Table.find? name v.aggregations = some d) : Enters v (a :: rest) name
  /-- The name is met inside the first aggregation, after one step. -/
  | inside {a a₁ : Aggregation} {rest : List Aggregation} {name : String}
      (h : v.unfold a = .ok a₁) (hin : Enters v a₁.aggs name) : Enters v (a :: rest) name
  /-- The name is met in a later aggregation. -/
  | later {a a' : Aggregation} {rest : List Aggregation} {name : String}
      (h : v.Expands a (.ok a')) (hrest : Enters v rest name) : Enters v (a :: rest) name

/-- The name is entered again inside its own definition. -/
def Recursive (v : Vocabulary) (name : String) : Prop :=
  ∃ d, Table.find? name v.aggregations = some d ∧ v.Enters d.aggs name

variable {v : Vocabulary}

/-! ## One step -/

/-- A name is replaced by its definition, which keeps what the name was given. -/
lemma unfold_named {a d : Aggregation} {name : String} (ha : a.kind = .named name)
    (hd : Table.find? name v.aggregations = some d) :
    v.unfold a = .ok (d.merge a.key a.extensions a.minDocCount (d.aggs ++ a.aggs)) := by
  simp only [unfold, ha, hd]

/-- A name that is not defined has nothing to stand for. -/
lemma unfold_unknown {a : Aggregation} {name : String} (ha : a.kind = .named name)
    (hd : Table.find? name v.aggregations = none) :
    v.unfold a = .error (.unknown name) := by
  simp only [unfold, ha, hd]

/-- What is not a name stands for itself. -/
lemma unfold_other {a : Aggregation} (ha : ∀ name, a.kind ≠ .named name) :
    v.unfold a = .ok a := by
  unfold unfold
  split
  · rename_i name hname
    exact absurd hname (ha name)
  · rfl

/-! ## Outcomes -/

mutual

/-- **There is at most one outcome.** -/
theorem Expands.unique : ∀ {a : Aggregation} {x y : Except NameError Aggregation},
    v.Expands a x → v.Expands a y → x = y
  | _, _, _, .refused h, hy => by
    cases hy with
    | refused h' => exact congrArg Except.error (Except.error.inj (h.symm.trans h'))
    | stopped h' _ | done h' _ => exact absurd (h.symm.trans h') nofun
  | _, _, _, .stopped h hin, hy => by
    cases hy with
    | refused h' => exact absurd (h.symm.trans h') nofun
    | stopped h' hin' =>
      obtain rfl := Except.ok.inj (h.symm.trans h')
      exact congrArg Except.error (Except.error.inj (hin.unique hin'))
    | done h' hin' =>
      obtain rfl := Except.ok.inj (h.symm.trans h')
      exact absurd (hin.unique hin') nofun
  | _, _, _, .done h hin, hy => by
    cases hy with
    | refused h' => exact absurd (h.symm.trans h') nofun
    | stopped h' hin' =>
      obtain rfl := Except.ok.inj (h.symm.trans h')
      exact absurd (hin.unique hin') nofun
    | done h' hin' =>
      obtain rfl := Except.ok.inj (h.symm.trans h')
      rw [Except.ok.inj (hin.unique hin')]

/-- There is at most one outcome for several aggregations. -/
theorem ExpandsAll.unique : ∀ {as : List Aggregation} {x y : Except NameError (List Aggregation)},
    v.ExpandsAll as x → v.ExpandsAll as y → x = y
  | _, _, _, .nil, hy => by
    cases hy
    rfl
  | _, _, _, .first h, hy => by
    cases hy with
    | first h' => exact congrArg Except.error (Except.error.inj (h.unique h'))
    | later h' _ | cons h' _ => exact absurd (h.unique h') nofun
  | _, _, _, .later h hrest, hy => by
    cases hy with
    | first h' => exact absurd (h.unique h') nofun
    | later h' hrest' => exact congrArg Except.error (Except.error.inj (hrest.unique hrest'))
    | cons h' hrest' => exact absurd (hrest.unique hrest') nofun
  | _, _, _, .cons h hrest, hy => by
    cases hy with
    | first h' => exact absurd (h.unique h') nofun
    | later h' hrest' => exact absurd (hrest.unique hrest') nofun
    | cons h' hrest' => rw [Except.ok.inj (h.unique h'), Except.ok.inj (hrest.unique hrest')]

end

namespace ExpandsAll

variable {as bs as' bs' : List Aggregation} {e : NameError}

/-- Two lists that expand, expand together. -/
lemma append_ok (has : v.ExpandsAll as (.ok as')) (hbs : v.ExpandsAll bs (.ok bs')) :
    v.ExpandsAll (as ++ bs) (.ok (as' ++ bs')) := by
  induction as generalizing as' with
  | nil =>
    cases has
    exact hbs
  | cons a rest ih =>
    cases has with
    | cons h hrest => exact .cons h (ih hrest)

/-- The second list fails as it does alone if the first one expands. -/
lemma append_error (has : v.ExpandsAll as (.ok as')) (hbs : v.ExpandsAll bs (.error e)) :
    v.ExpandsAll (as ++ bs) (.error e) := by
  induction as generalizing as' with
  | nil => exact hbs
  | cons a rest ih =>
    cases has with
    | cons h hrest => exact .later h (ih hrest)

/-- Where the first list fails, the second one is not reached. -/
lemma error_append (has : v.ExpandsAll as (.error e)) : v.ExpandsAll (as ++ bs) (.error e) := by
  induction as with
  | nil => cases has
  | cons a rest ih =>
    cases has with
    | first h => exact .first h
    | later h hrest => exact .later h (ih hrest)

end ExpandsAll

/-! ## Names that are entered -/

namespace Enters

variable {as bs : List Aggregation} {name : String}

/-- A name that is entered is defined. -/
lemma exists_definition (h : v.Enters as name) :
    ∃ d, Table.find? name v.aggregations = some d := by
  induction h with
  | here _ hd => exact ⟨_, hd⟩
  | inside _ _ ih | later _ _ ih => exact ih

/-- Names of the first list are entered. -/
lemma append_left (h : v.Enters as name) : v.Enters (as ++ bs) name := by
  induction h with
  | here ha hd => exact .here ha hd
  | inside h hin _ => exact .inside h hin
  | later h _ ih => exact .later h ih

/-- Names of the second list are entered if the first one expands. -/
lemma append_right {as' : List Aggregation} (has : v.ExpandsAll as (.ok as'))
    (h : v.Enters bs name) : v.Enters (as ++ bs) name := by
  induction as generalizing as' with
  | nil => exact h
  | cons a rest ih =>
    cases has with
    | cons hfirst hrest => exact .later hfirst (ih hrest)

/-- What is entered inside a definition is entered where the name is. -/
lemma trans {d : Aggregation} {inner : String} (h : v.Enters as name)
    (hd : Table.find? name v.aggregations = some d) (hin : v.Enters d.aggs inner) :
    v.Enters as inner := by
  induction h with
  | here ha hd' =>
    obtain rfl := Option.some.inj (hd.symm.trans hd')
    exact .inside (unfold_named ha hd) hin.append_left
  | inside h _ ih => exact .inside h (ih hd)
  | later h _ ih => exact .later h (ih hd)

/-- A name that is entered is entered in the first aggregation, or later if that one is expanded. -/
lemma cases_cons {a : Aggregation} {rest : List Aggregation} (h : v.Enters (a :: rest) name) :
    v.Enters [a] name ∨ ∃ a', v.Expands a (.ok a') ∧ v.Enters rest name := by
  cases h with
  | here ha hd => exact .inl (.here ha hd)
  | inside h hin => exact .inl (.inside h hin)
  | later h hrest => exact .inr ⟨_, h, hrest⟩

/-- If nothing recursive is met inside an aggregation after one step, it is not recursive itself. -/
lemma not_recursive_of_unfold {a a₁ : Aggregation} (h : v.unfold a = .ok a₁)
    (hin : ∀ name, v.Enters a₁.aggs name → ¬ v.Recursive name) (hname : v.Enters [a] name) :
    ¬ v.Recursive name := by
  cases hname with
  | here ha hd =>
    obtain rfl := Except.ok.inj ((unfold_named ha hd).symm.trans h)
    rintro ⟨d, hd', hback⟩
    obtain rfl := Option.some.inj (hd'.symm.trans hd)
    exact hin name hback.append_left ⟨d, hd, hback⟩
  | inside h' hin' =>
    obtain rfl := Except.ok.inj (h'.symm.trans h)
    exact hin name hin'
  | later _ hrest => cases hrest

/-- A name without a definition is not entered. -/
lemma unfold_ne_error {a : Aggregation} {e : NameError} (h : v.unfold a = .error e) :
    ¬ v.Enters [a] name := by
  intro hname
  cases hname with
  | here ha hd => exact absurd ((unfold_named ha hd).symm.trans h) nofun
  | inside h' _ => exact absurd (h'.symm.trans h) nofun
  | later _ hrest => cases hrest

end Enters

mutual

/-- **An expansion with an outcome enters nothing recursive.** A name that its own definition leads
back to would be entered inside what has been entered, where by induction it is not recursive. -/
theorem Expands.not_recursive : ∀ {a : Aggregation} {x : Except NameError Aggregation},
    v.Expands a x → ∀ name, v.Enters [a] name → ¬ v.Recursive name
  | _, _, .refused h, _, hname => absurd hname (Enters.unfold_ne_error h)
  | _, _, .stopped h hin, _, hname => hname.not_recursive_of_unfold h hin.not_recursive
  | _, _, .done h hin, _, hname => hname.not_recursive_of_unfold h hin.not_recursive

/-- The expansion of several aggregations with an outcome enters nothing recursive. -/
lemma ExpandsAll.not_recursive :
    ∀ {as : List Aggregation} {x : Except NameError (List Aggregation)},
      v.ExpandsAll as x → ∀ name, v.Enters as name → ¬ v.Recursive name
  | _, _, .nil, _, hname => by cases hname
  | _, _, .first h, name, hname => by
    rcases hname.cases_cons with hname | ⟨a', ha', -⟩
    · exact h.not_recursive name hname
    · exact absurd (h.unique ha') nofun
  | _, _, .later h hrest, name, hname => by
    rcases hname.cases_cons with hname | ⟨-, -, hname⟩
    · exact h.not_recursive name hname
    · exact hrest.not_recursive name hname
  | _, _, .cons h hrest, name, hname => by
    rcases hname.cases_cons with hname | ⟨-, -, hname⟩
    · exact h.not_recursive name hname
    · exact hrest.not_recursive name hname

end

/-! ## The expansion within a depth -/

/-- The outcome is not that the depth was used up. -/
def Ends {α : Type} (x : Except NameError α) : Prop := ∀ name, x ≠ .error (.endless name)

/-- An expansion with a result has come to its end. -/
lemma ends_ok {α : Type} (a : α) : Ends (.ok a) := fun _ => nofun

/-- The failure of one step as the failure of a longer one. -/
lemma Ends.error {α β : Type} {e : NameError} (h : Ends (.error e : Except NameError α)) :
    Ends (.error e : Except NameError β) :=
  fun name he => h name (congrArg Except.error (Except.error.inj he))

section Inherited

variable {inherited : String → Except NameError (List Aggregation)}

/-- Several aggregations have the outcome that a pass over them has. -/
lemma expandsAll_of_mapM {f : Aggregation → Except NameError Aggregation} {as : List Aggregation}
    (hf : ∀ a ∈ as, Ends (f a) → v.Expands a (f a)) (h : Ends (as.mapM f)) :
    v.ExpandsAll as (as.mapM f) := by
  induction as with
  | nil => exact .nil
  | cons a rest ih =>
    have hfirst := hf a List.mem_cons_self
    have hrest := ih fun b hb => hf b (List.mem_cons_of_mem a hb)
    rw [Sequencing.mapM_cons] at h ⊢
    cases ha : f a with
    | error e =>
      rw [ha] at h hfirst
      exact .first (hfirst (Ends.error h))
    | ok a' =>
      rw [ha] at h hfirst
      cases hmap : rest.mapM f with
      | error e =>
        rw [hmap] at h hrest
        exact .later (hfirst (ends_ok a')) (hrest h)
      | ok rest' =>
        rw [hmap] at hrest
        exact .cons (hfirst (ends_ok a')) (hrest (ends_ok rest'))

/-- One level: if what is inherited from definitions is their outcome, what is found for an
aggregation is its outcome. -/
lemma expands_of_inherited
    (hinherited : ∀ name d, Table.find? name v.aggregations = some d → Ends (inherited name) →
      v.ExpandsAll d.aggs (inherited name))
    (a : Aggregation) (h : Ends (a.expand v.aggregations inherited)) :
    v.Expands a (a.expand v.aggregations inherited) := by
  induction a using Aggregation.induction with
  | step a ih =>
    have hown : Ends (a.aggs.mapM (Aggregation.expand v.aggregations inherited)) →
        v.ExpandsAll a.aggs (a.aggs.mapM (Aggregation.expand v.aggregations inherited)) :=
      expandsAll_of_mapM ih
    have hself : (∀ name, a.kind ≠ .named name) → v.unfold a = .ok a := unfold_other
    obtain ⟨key, kind, aggs, extensions, least⟩ := a
    dsimp only at hown hself
    cases kind with
    | named name =>
      rw [Aggregation.expand, Aggregation.expandAll_eq_mapM] at h ⊢
      cases hd : Table.find? name v.aggregations with
      | none => exact .refused (unfold_unknown rfl hd)
      | some d =>
        have hbefore := hinherited name d hd
        simp only [hd] at h ⊢
        cases hin : inherited name with
        | error e =>
          rw [hin] at h hbefore
          exact .stopped (unfold_named rfl hd) (hbefore (Ends.error h)).error_append
        | ok before =>
          rw [hin] at h hbefore
          cases hafter : aggs.mapM (Aggregation.expand v.aggregations inherited) with
          | error e =>
            rw [hafter] at h hown
            exact .stopped (unfold_named rfl hd)
              ((hbefore (ends_ok before)).append_error (hown (Ends.error h)))
          | ok after =>
            rw [hafter] at hown
            exact .done (unfold_named rfl hd)
              ((hbefore (ends_ok before)).append_ok (hown (ends_ok after)))
    | onField _ _ | filters _ =>
      replace hself := hself (by simp)
      simp only [Aggregation.expand, Aggregation.expandAll_eq_mapM] at h ⊢
      cases haggs : aggs.mapM (Aggregation.expand v.aggregations inherited) with
      | error e =>
        rw [haggs] at h hown
        exact .stopped hself (hown (Ends.error h))
      | ok aggs' =>
        rw [haggs] at hown
        exact .done hself (hown (ends_ok aggs'))

variable (hinherited : ∀ name d, Table.find? name v.aggregations = some d →
  Ends (inherited name) → v.ExpandsAll d.aggs (inherited name)) {last : String}

include hinherited

/-- If the depth is used up in one of several aggregations, it is used up in a definition that is
entered, since those before it are expanded. -/
lemma exists_entered_of_mapM {as : List Aggregation} (has : ∀ a ∈ as,
      a.expand v.aggregations inherited = .error (.endless last) →
      ∃ name, v.Enters [a] name ∧ inherited name = .error (.endless last))
    (h : as.mapM (Aggregation.expand v.aggregations inherited) = .error (.endless last)) :
    ∃ name, v.Enters as name ∧ inherited name = .error (.endless last) := by
  induction as with
  | nil => cases h
  | cons a rest ih =>
    rw [Sequencing.mapM_cons] at h
    cases ha : a.expand v.aggregations inherited with
    | error e =>
      simp only [ha] at h
      obtain ⟨name, hname, hlast⟩ :=
        has a List.mem_cons_self (ha.trans (congrArg _ (Except.error.inj h)))
      exact ⟨name, hname.append_left, hlast⟩
    | ok a' =>
      cases hrest : rest.mapM (Aggregation.expand v.aggregations inherited) with
      | ok rest' =>
        simp only [ha, hrest] at h
        cases h
      | error e =>
        simp only [ha, hrest] at h
        obtain ⟨name, hname, hlast⟩ := ih (fun b hb => has b (List.mem_cons_of_mem a hb))
          (hrest.trans (congrArg _ (Except.error.inj h)))
        have hfirst := expands_of_inherited hinherited a (ha ▸ ends_ok a')
        exact ⟨name, .later (ha ▸ hfirst) hname, hlast⟩

/-- One level: if the depth is used up in an aggregation, it is used up in a definition that is
entered. -/
lemma exists_entered (a : Aggregation)
    (h : a.expand v.aggregations inherited = .error (.endless last)) :
    ∃ name, v.Enters [a] name ∧ inherited name = .error (.endless last) := by
  induction a using Aggregation.induction with
  | step a ih =>
    have hown : a.aggs.mapM (Aggregation.expand v.aggregations inherited) =
          .error (.endless last) →
        ∃ name, v.Enters a.aggs name ∧ inherited name = .error (.endless last) :=
      exists_entered_of_mapM hinherited ih
    have hself : (∀ name, a.kind ≠ .named name) → v.unfold a = .ok a := unfold_other
    obtain ⟨key, kind, aggs, extensions, least⟩ := a
    dsimp only at hown hself
    cases kind with
    | named name =>
      rw [Aggregation.expand, Aggregation.expandAll_eq_mapM] at h
      cases hd : Table.find? name v.aggregations with
      | none =>
        rw [hd] at h
        cases h
      | some d =>
        cases hin : inherited name with
        | error e =>
          rw [hd, hin] at h
          exact ⟨name, .here rfl hd, hin.trans (congrArg _ (Except.error.inj h))⟩
        | ok before =>
          cases hafter : aggs.mapM (Aggregation.expand v.aggregations inherited) with
          | ok after =>
            rw [hd, hin, hafter] at h
            cases h
          | error e =>
            rw [hd, hin, hafter] at h
            obtain ⟨inner, hinner, hlast⟩ :=
              hown (hafter.trans (congrArg _ (Except.error.inj h)))
            -- What is inside the name comes behind what is inside the definition.
            have hbefore : v.ExpandsAll d.aggs (.ok before) :=
              hin ▸ hinherited name d hd (hin ▸ ends_ok before)
            exact ⟨inner, .inside (unfold_named rfl hd) (hinner.append_right hbefore), hlast⟩
    | onField _ _ | filters _ =>
      replace hself := hself (by simp)
      simp only [Aggregation.expand, Aggregation.expandAll_eq_mapM] at h
      cases haggs : aggs.mapM (Aggregation.expand v.aggregations inherited) with
      | ok aggs' =>
        rw [haggs] at h
        cases h
      | error e =>
        rw [haggs] at h
        obtain ⟨inner, hinner, hlast⟩ := hown (haggs.trans (congrArg _ (Except.error.inj h)))
        exact ⟨inner, .inside hself hinner, hlast⟩

end Inherited

/-! ## Depths -/

/-- What is inherited from a definition within a depth is the outcome of what is inside it. -/
lemma expandsAll_inherited {depth : Nat} {name : String} {d : Aggregation}
    (hd : Table.find? name v.aggregations = some d) (h : Ends (v.inherited depth name)) :
    v.ExpandsAll d.aggs (v.inherited depth name) := by
  induction depth generalizing name d with
  | zero => exact absurd rfl (h name)
  | succ depth ih =>
    have hinherited : v.inherited (depth + 1) name =
        d.aggs.mapM (Aggregation.expand v.aggregations (v.inherited depth)) := by
      rw [inherited, hd]
      exact Aggregation.expandAll_eq_mapM d.aggs
    rw [hinherited] at h ⊢
    exact expandsAll_of_mapM
      (fun a _ => expands_of_inherited (fun _ _ hd' h' => ih hd' h') a) h

/-- **What is found within a depth is the outcome.** -/
theorem expands_of_ends {depth : Nat} {a : Aggregation} (h : Ends (v.expandWithin depth a)) :
    v.Expands a (v.expandWithin depth a) :=
  expands_of_inherited (fun _ _ hd hends => expandsAll_inherited hd hends) a h

/-- **A depth that is used up enters as many names.** If the outcome is not found within a depth,
there is one name more than levels that are entered one inside the definition of the other. -/
theorem exists_chain {depth : Nat} {a : Aggregation} {last : String}
    (h : v.expandWithin depth a = .error (.endless last)) :
    ∃ names : List String, names.length = depth + 1 ∧ (∀ name ∈ names, v.Enters [a] name) ∧
      names.Pairwise fun outer inner =>
        ∃ d, Table.find? outer v.aggregations = some d ∧ v.Enters d.aggs inner := by
  have hchain : ∀ (depth : Nat) (name : String) (d : Aggregation),
      Table.find? name v.aggregations = some d →
      v.inherited depth name = .error (.endless last) →
      ∃ names : List String, names.length = depth ∧ (∀ n ∈ names, v.Enters d.aggs n) ∧
        names.Pairwise fun outer inner =>
          ∃ d, Table.find? outer v.aggregations = some d ∧ v.Enters d.aggs inner := by
    intro depth
    induction depth with
    | zero => exact fun _ _ _ _ => ⟨[], rfl, nofun, .nil⟩
    | succ depth ih =>
      intro name d hd hlast
      have hinherited : d.aggs.mapM (Aggregation.expand v.aggregations (v.inherited depth)) =
          .error (.endless last) := by
        rw [inherited, hd] at hlast
        exact (Aggregation.expandAll_eq_mapM d.aggs).symm.trans hlast
      obtain ⟨next, hnext, hlast'⟩ := exists_entered_of_mapM
        (fun _ _ hd' hends => expandsAll_inherited hd' hends)
        (fun a _ => exists_entered (fun _ _ hd' hends => expandsAll_inherited hd' hends) a)
        hinherited
      obtain ⟨d', hd'⟩ := hnext.exists_definition
      obtain ⟨names, hlength, hnames, hpairs⟩ := ih next d' hd' hlast'
      refine ⟨next :: names, by rw [List.length_cons, hlength], ?_, ?_⟩
      · exact List.forall_mem_cons.2 ⟨hnext, fun n hn => hnext.trans hd' (hnames n hn)⟩
      · exact List.pairwise_cons.2 ⟨fun n hn => ⟨d', hd', hnames n hn⟩, hpairs⟩
  obtain ⟨name, hname, hlast⟩ :=
    exists_entered (fun _ _ hd hends => expandsAll_inherited hd hends) a h
  obtain ⟨d, hd⟩ := hname.exists_definition
  obtain ⟨names, hlength, hnames, hpairs⟩ := hchain depth name d hd hlast
  refine ⟨name :: names, by rw [List.length_cons, hlength], ?_, ?_⟩
  · exact List.forall_mem_cons.2 ⟨hname, fun n hn => hname.trans hd (hnames n hn)⟩
  · exact List.pairwise_cons.2 ⟨fun n hn => ⟨d, hd, hnames n hn⟩, hpairs⟩

/-- If nothing recursive is entered, as many levels as there are definitions are enough. -/
lemma ends_of_not_recursive {a : Aggregation}
    (h : ∀ name, v.Enters [a] name → ¬ v.Recursive name) :
    Ends (v.expandWithin v.aggregations.length a) := by
  intro last hlast
  obtain ⟨names, hlength, hnames, hpairs⟩ := exists_chain hlast
  have hnodup : names.Nodup := by
    refine List.Pairwise.imp_of_mem (fun {outer inner} houter _ hback heq => ?_) hpairs
    subst heq
    exact h outer (hnames outer houter) hback
  have hsubset : names ⊆ v.aggregations.map Prod.fst := by
    intro name hname
    obtain ⟨d, hd⟩ := (hnames name hname).exists_definition
    exact List.mem_map_of_mem (Table.mem_of_find? hd)
  have hle := (hnodup.subperm hsubset).length_le
  rw [hlength, List.length_map] at hle
  exact absurd hle (by omega)

/-- **When the expansion ends, and how.** The expansion of an aggregation has an outcome exactly if
no name that it enters has a definition that leads back to the name; and its outcomes are what is
found with as many levels as there are definitions, unless these are used up.

**Proof sketch.** An outcome is reached by finitely many steps, and by induction on them nothing
recursive is entered. If the levels are used up, there is one name more than definitions among those
that are entered one inside the definition of the other; two of them are equal, and this name is
recursive. What is found before the levels are used up is an outcome, and there is only one. -/
theorem expands_iff (v : Vocabulary) (a : Aggregation) :
    ((∃ x, v.Expands a x) ↔ ∀ name, v.Enters [a] name → ¬ v.Recursive name) ∧
      ∀ x, v.Expands a x ↔
        v.expandWithin v.aggregations.length a = x ∧ ∀ name, x ≠ .error (.endless name) := by
  have hfound : (∀ name, v.Enters [a] name → ¬ v.Recursive name) →
      v.Expands a (v.expandWithin v.aggregations.length a) :=
    fun h => expands_of_ends (ends_of_not_recursive h)
  refine ⟨⟨fun ⟨_, hx⟩ => hx.not_recursive, fun h => ⟨_, hfound h⟩⟩, fun x => ⟨fun hx => ?_, ?_⟩⟩
  · have hends := ends_of_not_recursive hx.not_recursive
    obtain rfl := (hfound hx.not_recursive).unique hx
    exact ⟨rfl, hends⟩
  · rintro ⟨rfl, hends⟩
    exact expands_of_ends hends

/-! ## A definition that contains itself -/

/-- A vocabulary in which the terms of a field are counted inside each of its terms. -/
def mirrored : Vocabulary where
  aggregations :=
    [("colour", {
      key := "colour"
      kind := .onField "colour" (.terms none none none none)
      aggs := [{ key := "again", kind := .named "colour" }] })]

/-- **The expansion of a definition that contains itself has no outcome**, and every depth is used
up. -/
theorem mirrored_endless :
    (¬ ∃ x, mirrored.Expands { key := "x", kind := .named "colour" } x) ∧
      ∀ depth, mirrored.expandWithin depth { key := "x", kind := .named "colour" } =
        .error (.endless "colour") := by
  constructor
  · rintro ⟨x, hx⟩
    exact hx.not_recursive "colour" (.here rfl rfl) ⟨_, rfl, .here rfl rfl⟩
  · have hinherited : ∀ depth, mirrored.inherited depth "colour" = .error (.endless "colour") := by
      intro depth
      induction depth with
      | zero => rfl
      | succ depth ih =>
        show Aggregation.expandAll mirrored.aggregations (mirrored.inherited depth)
          [{ key := "again", kind := .named "colour" }] = _
        have hfind : Table.find? "colour" mirrored.aggregations = some _ := rfl
        simp only [Aggregation.expandAll, Aggregation.expand, hfind, ih]
    intro depth
    have hfind : Table.find? "colour" mirrored.aggregations = some _ := rfl
    simp only [expandWithin, Aggregation.expand, hfind, hinherited depth]

end Vocabulary

end Sift
