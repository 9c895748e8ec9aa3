import Sift.Proofs.Expansion

/-!
# What the expansion of aggregations leaves behind

A named aggregation takes on the kind of its definition, which may be a name again or have filters
with texts and names in them. The expansion puts nothing in the place of those, so that whether a
request can be executed depends on the definitions that it leads to. The kinds that the expansion
meets, and what each of them becomes, decide about it exactly.

## Main definitions

* `Sift.Vocabulary.Visits`: the kinds that the expansion of an aggregation meets.
* `Sift.Vocabulary.outcome`: the kind that takes the place of a kind.
* `Sift.Vocabulary.Settles`: everything that is met becomes something that can be executed.

## Main results

* `Sift.Vocabulary.aggregationsOf_resolved_iff`: when expanded aggregations contain no reference.
* `Sift.Vocabulary.chained_stays_named`: a name for a name stays a name.
-/

set_option autoImplicit false

namespace Sift

namespace Vocabulary

/-- The kind that takes the place of a kind: for a name that is defined, the kind of its
definition. -/
def outcome (v : Vocabulary) : AggregationKind → AggregationKind
  | .named name =>
    match Table.find? name v.aggregations with
    | some d => d.kind
    | none => .named name
  | k => k

/-- The kinds that the expansion of an aggregation meets: its own one, those of the aggregations
inside it and, for a name, those of the aggregations inside the definition. -/
inductive Visits (v : Vocabulary) : Aggregation → AggregationKind → Prop where
  /-- The aggregation itself. -/
  | here (a : Aggregation) : Visits v a a.kind
  /-- An aggregation inside. -/
  | within {a b : Aggregation} {k : AggregationKind} (hb : b ∈ a.aggs) (hk : Visits v b k) :
      Visits v a k
  /-- An aggregation inside the definition. -/
  | defined {a d b : Aggregation} {name : String} {k : AggregationKind}
      (ha : a.kind = .named name) (hd : Table.find? name v.aggregations = some d)
      (hb : b ∈ d.aggs) (hk : Visits v b k) : Visits v a k

/-- Everything that the expansion of an aggregation meets becomes something that can be
executed. -/
def Settles (v : Vocabulary) (a : Aggregation) : Prop :=
  ∀ k, v.Visits a k → (v.outcome k).Resolved

variable {v : Vocabulary}

/-- One step of the expansion: the kind, the aggregations inside and those of the definition. -/
lemma settles_iff (a : Aggregation) :
    v.Settles a ↔ (v.outcome a.kind).Resolved ∧ (∀ b ∈ a.aggs, v.Settles b) ∧
      ∀ name d, a.kind = .named name → Table.find? name v.aggregations = some d →
        ∀ b ∈ d.aggs, v.Settles b := by
  constructor
  · intro h
    refine ⟨h _ (.here a), fun b hb k hk => h k (.within hb hk), ?_⟩
    exact fun name d ha hd b hb k hk => h k (.defined ha hd hb hk)
  · rintro ⟨hkind, hinside, hdefined⟩ k hk
    cases hk with
    | here => exact hkind
    | within hb hk => exact hinside _ hb k hk
    | defined ha hd hb hk => exact hdefined _ _ ha hd _ hb k hk

/-- A name that is defined settles with the kind of its definition, the aggregations inside the
definition and its own. -/
lemma settles_named_iff {a d : Aggregation} {name : String} (ha : a.kind = .named name)
    (hd : Table.find? name v.aggregations = some d) :
    v.Settles a ↔ d.kind.Resolved ∧ (∀ b ∈ d.aggs, v.Settles b) ∧ ∀ b ∈ a.aggs, v.Settles b := by
  have hkind : v.outcome a.kind = d.kind := by rw [ha, outcome, hd]
  rw [settles_iff, hkind]
  constructor
  · rintro ⟨hresolved, hinside, hdefined⟩
    exact ⟨hresolved, hdefined name d ha hd, hinside⟩
  · rintro ⟨hresolved, hdefined, hinside⟩
    refine ⟨hresolved, hinside, fun name' d' ha' hd' => ?_⟩
    obtain rfl : name = name' := AggregationKind.named.inj (ha.symm.trans ha')
    obtain rfl := Option.some.inj (hd.symm.trans hd')
    exact hdefined

/-- Anything but a name settles with its kind and the aggregations inside. -/
lemma settles_other_iff {a : Aggregation} (ha : ∀ name, a.kind ≠ .named name) :
    v.Settles a ↔ a.kind.Resolved ∧ ∀ b ∈ a.aggs, v.Settles b := by
  have hkind : v.outcome a.kind = a.kind := by
    cases hk : a.kind with
    | onField _ _ => rfl
    | filters _ => rfl
    | named name => exact absurd hk (ha name)
  rw [settles_iff, hkind]
  constructor
  · rintro ⟨hresolved, hinside, -⟩
    exact ⟨hresolved, hinside⟩
  · rintro ⟨hresolved, hinside⟩
    exact ⟨hresolved, hinside, fun name _ hname => absurd hname (ha name)⟩

/-- Other names for the fields lead to the same definitions. -/
lemma settles_rename (f : String → String) (a : Aggregation) :
    v.Settles (a.rename f) ↔ v.Settles a := by
  induction a using Aggregation.induction with
  | step a ih =>
    have hkind : (v.outcome (a.rename f).kind).Resolved ↔ (v.outcome a.kind).Resolved := by
      obtain ⟨key, kind, aggs, extensions, least⟩ := a
      cases kind with
      | onField _ _ => exact Iff.rfl
      | filters fs => exact AggregationKind.resolved_rename f (.filters fs)
      | named _ => exact Iff.rfl
    have haggs : (a.rename f).aggs = a.aggs.map (Aggregation.rename f) := by
      obtain ⟨key, kind, aggs, extensions, least⟩ := a
      rw [Aggregation.rename, Aggregation.renameAll_eq_map]
    have hname : ∀ name, (a.rename f).kind = .named name ↔ a.kind = .named name := by
      obtain ⟨key, kind, aggs, extensions, least⟩ := a
      intro name
      cases kind <;> simp [Aggregation.rename, AggregationKind.rename]
    rw [settles_iff, settles_iff a, hkind, haggs, List.forall_mem_map]
    simp only [hname]
    rw [forall₂_congr ih]

/-! ## The expansion -/

/-- **One level of the expansion.** If the aggregations inside definitions are expanded to
something that can be executed exactly when they settle, then so is every aggregation.

**Proof sketch.** Induction on the aggregation. A name becomes an aggregation of the kind of its
definition that contains the aggregations inside the definition, for which the assumption speaks,
and those inside the name, for which the induction hypothesis does. Any other aggregation keeps its
kind. -/
theorem expand_resolved_iff {inherited : String → Except NameError (List Aggregation)}
    (hinherited : ∀ name d bs, Table.find? name v.aggregations = some d → inherited name = .ok bs →
      ((∀ b ∈ bs, b.Resolved) ↔ ∀ b ∈ d.aggs, v.Settles b))
    {a a' : Aggregation} (h : a.expand v.aggregations inherited = .ok a') :
    a'.Resolved ↔ v.Settles a := by
  induction a using Aggregation.induction generalizing a' with
  | step a ih =>
    rw [Aggregation.resolved_iff]
    by_cases hk : ∃ name, a.kind = .named name
    · obtain ⟨name, hname⟩ := hk
      obtain ⟨key, kind, aggs, extensions, least⟩ := a
      obtain rfl : kind = .named name := hname
      obtain ⟨d, before, after, hd, hbefore, hafter, rfl⟩ := Aggregation.expand_named_ok h
      have hin : (∀ b ∈ before, b.Resolved) ↔ ∀ b ∈ d.aggs, v.Settles b :=
        hinherited name d before hd hbefore
      have hown : (∀ b ∈ after, b.Resolved) ↔ ∀ b ∈ aggs, v.Settles b :=
        Sequencing.forall_result_iff hafter fun b hb b' hb' => ih b hb hb'
      rw [settles_named_iff rfl hd, ← hin, ← hown, ← List.forall_mem_append]
      exact Iff.rfl
    · have hne : ∀ name, a.kind ≠ .named name := fun name hn => hk ⟨name, hn⟩
      obtain ⟨aggs, haggs, rfl⟩ := Aggregation.expand_other_ok hne h
      have hown : (∀ b ∈ aggs, b.Resolved) ↔ ∀ b ∈ a.aggs, v.Settles b :=
        Sequencing.forall_result_iff haggs fun b hb b' hb' => ih b hb hb'
      rw [settles_other_iff hne, ← hown]

/-- The aggregations inside definitions, however deeply definitions are nested. -/
lemma inherited_resolved_iff {depth : Nat} {name : String} {d : Aggregation}
    {bs : List Aggregation} (hd : Table.find? name v.aggregations = some d)
    (h : v.inherited depth name = .ok bs) :
    (∀ b ∈ bs, b.Resolved) ↔ ∀ b ∈ d.aggs, v.Settles b := by
  induction depth generalizing name d bs with
  | zero => cases h
  | succ depth ih =>
    rw [inherited, hd] at h
    replace h : Aggregation.expandAll v.aggregations (v.inherited depth) d.aggs = .ok bs := h
    rw [Aggregation.expandAll_eq_mapM] at h
    exact Sequencing.forall_result_iff h fun b _ b' hb' =>
      expand_resolved_iff (fun _ _ _ hd' h' => ih hd' h') hb'

/-- **What the expansion leaves behind.** Expanded aggregations contain no name, and no filter with
a text or a name, exactly if everything that the expansion meets becomes something that can be
executed: no name that is met is defined as a name, and neither the filters that are met nor those
of a definition that is met contain texts and names. Then the engine supports them, whatever
records there are. -/
theorem aggregationsOf_resolved_iff {as as' : List Aggregation}
    (h : v.aggregationsOf as = .ok as') :
    ((∀ a ∈ as', a.Resolved) ↔ ∀ a ∈ as, v.Settles a) ∧
      ((∀ a ∈ as, v.Settles a) → ∀ {R : Type} [Environment] (E : Evaluator R) (now : Instant)
        (rs : List R) (s : String),
          Aggregation.computeAll E now as' rs ≠ .error (.unsupported s)) := by
  have hiff : (∀ a ∈ as', a.Resolved) ↔ ∀ a ∈ as, v.Settles a := by
    refine Sequencing.forall_result_iff h fun a _ a' ha' => ?_
    have hok : v.expandWithin v.aggregations.length (a.rename v.fieldName) = .ok a' :=
      Sequencing.eq_ok_of_mapError ha'
    rw [← settles_rename v.fieldName a]
    exact expand_resolved_iff (fun _ _ _ => inherited_resolved_iff) hok
  exact ⟨hiff, fun hall R _ E now rs => Aggregation.computeAll_supported (hiff.2 hall) rs⟩

/-! ## A name for a name -/

/-- A vocabulary in which a name stands for a name of terms. -/
def chained : Vocabulary where
  aggregations :=
    [("colour", { key := "colour", kind := .onField "colour" (.terms none none none none) }),
      ("shade", { key := "shade", kind := .named "colour" })]

/-- A name that is defined as an aggregation of terms is replaced by it, and everything it meets
settles. -/
theorem chained_resolved :
    (chained.aggregationsOf [{ key := "x", kind := .named "colour" }] =
      .ok [{ key := "x", kind := .onField "colour" (.terms none none none none) }]) ∧
    ∀ a ∈ [({ key := "x", kind := .named "colour" } : Aggregation)], chained.Settles a := by
  have hok : chained.aggregationsOf [{ key := "x", kind := .named "colour" }] =
      .ok [{ key := "x", kind := .onField "colour" (.terms none none none none) }] := rfl
  exact ⟨hok, (aggregationsOf_resolved_iff hok).1.1 (by decide)⟩

/-- **A name for a name stays a name**, and the engine refuses it. -/
theorem chained_stays_named :
    ∃ as', chained.aggregationsOf [{ key := "x", kind := .named "shade" }] = .ok as' ∧
      ¬ (∀ a ∈ as', a.Resolved) ∧
      ∀ {R : Type} [Environment] (E : Evaluator R) (now : Instant) (rs : List R),
        Aggregation.computeAll E now as' rs =
          .error (.unsupported "Named aggregation 'colour' must be resolved before execution") :=
  ⟨[{ key := "x", kind := .named "colour" }], rfl, by decide, fun _ _ _ => rfl⟩

end Vocabulary

end Sift
