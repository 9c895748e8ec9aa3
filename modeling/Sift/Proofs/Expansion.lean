import Sift.Proofs.Nesting
import Sift.Vocabulary.Expansion

/-!
# How aggregations are expanded

The expansion goes through an aggregation from the outside to the inside. A name becomes its
definition with more aggregations inside, anything else keeps its kind, and where there are no
names nothing changes.

## Main definitions

* `Sift.Aggregation.Unnamed`: no aggregation at any depth is a name.

## Main results

* `Sift.Aggregation.expand_named_ok`, `Sift.Aggregation.expand_other_ok`: what an expansion
  consists of.
* `Sift.Vocabulary.aggregationsOf_of_unnamed`: aggregations without names are only renamed.
-/

set_option autoImplicit false

namespace Sift

namespace Aggregation

variable {definitions : Table Aggregation}
  {inherited : String → Except NameError (List Aggregation)}

/-- Several aggregations are expanded one after the other. -/
lemma expandAll_eq_mapM (as : List Aggregation) :
    expandAll definitions inherited as = as.mapM (expand definitions inherited) := by
  induction as with
  | nil => rfl
  | cons a rest ih =>
    rw [expandAll, Sequencing.mapM_cons, ih]
    cases expand definitions inherited a with
    | error e => rfl
    | ok a' => cases rest.mapM (expand definitions inherited) <;> rfl

/-- What the expansion of a name consists of. -/
theorem expand_named_ok {key name : String} {aggs : List Aggregation} {extensions : Table Json}
    {least : Option Nat} {a' : Aggregation}
    (h : expand definitions inherited ⟨key, .named name, aggs, extensions, least⟩ = .ok a') :
    ∃ d before after, Table.find? name definitions = some d ∧ inherited name = .ok before ∧
      aggs.mapM (expand definitions inherited) = .ok after ∧
      a' = d.merge key extensions least (before ++ after) := by
  rw [expand, expandAll_eq_mapM] at h
  cases hd : Table.find? name definitions with
  | none =>
    rw [hd] at h
    cases h
  | some d =>
    cases hb : inherited name with
    | error e =>
      rw [hd, hb] at h
      cases h
    | ok before =>
      cases ha : aggs.mapM (expand definitions inherited) with
      | error e =>
        rw [hd, hb, ha] at h
        cases h
      | ok after =>
        rw [hd, hb, ha] at h
        exact ⟨d, before, after, rfl, rfl, rfl, (Except.ok.inj h).symm⟩

/-- What the expansion of anything but a name consists of. -/
theorem expand_other_ok {a a' : Aggregation} (hk : ∀ name, a.kind ≠ .named name)
    (h : expand definitions inherited a = .ok a') :
    ∃ aggs, a.aggs.mapM (expand definitions inherited) = .ok aggs ∧
      a' = { a with aggs := aggs } := by
  obtain ⟨key, kind, aggs, extensions, least⟩ := a
  cases kind with
  | named name => exact absurd rfl (hk name)
  | onField _ _ | filters _ =>
    simp only [expand, expandAll_eq_mapM] at h
    cases ha : aggs.mapM (expand definitions inherited) with
    | error e =>
      rw [ha] at h
      cases h
    | ok aggs' =>
      rw [ha] at h
      exact ⟨aggs', rfl, (Except.ok.inj h).symm⟩

/-! ## Aggregations without names -/

/-- No aggregation at any depth is a name. -/
def Unnamed (a : Aggregation) : Prop := ∀ k ∈ a.kinds, ∀ name, k ≠ .named name

/-- Nothing at any depth is a name, in terms of the aggregations inside. -/
lemma unnamed_iff (a : Aggregation) :
    a.Unnamed ↔ (∀ name, a.kind ≠ .named name) ∧ ∀ b ∈ a.aggs, b.Unnamed := by
  rw [Unnamed, kinds_eq, List.forall_mem_cons, List.forall_mem_flatMap]
  exact Iff.rfl

end Aggregation

namespace Vocabulary

variable {v : Vocabulary}

/-- An aggregation without names has no other expansion than itself. -/
lemma expand_of_unnamed {inherited : String → Except NameError (List Aggregation)}
    (f : String → String) {a : Aggregation} (h : a.Unnamed) :
    (a.rename f).expand v.aggregations inherited = .ok (a.rename f) := by
  induction a using Aggregation.induction with
  | step a ih =>
    obtain ⟨hkind, hinside⟩ := a.unnamed_iff.1 h
    obtain ⟨key, kind, aggs, extensions, least⟩ := a
    have haggs : (aggs.map (Aggregation.rename f)).mapM
        (Aggregation.expand v.aggregations inherited) = .ok (aggs.map (Aggregation.rename f)) := by
      refine Sequencing.mapM_eq_self fun b hb => ?_
      obtain ⟨c, hc, rfl⟩ := List.mem_map.1 hb
      exact ih c hc (hinside c hc)
    rw [Aggregation.rename, Aggregation.renameAll_eq_map]
    cases kind with
    | named name => exact absurd rfl (hkind name)
    | onField _ _ | filters _ =>
      simp only [AggregationKind.rename, Aggregation.expand, Aggregation.expandAll_eq_mapM, haggs]

/-- Where nothing is a name, expansion only renames fields. -/
theorem aggregationsOf_of_unnamed {as : List Aggregation} (h : ∀ a ∈ as, a.Unnamed) :
    v.aggregationsOf as = .ok (as.map (Aggregation.rename v.fieldName)) := by
  have hone : ∀ a ∈ as, v.aggregation a = .ok (a.rename v.fieldName) := by
    intro a ha
    rw [aggregation, expandAggregation, expandWithin, expand_of_unnamed v.fieldName (h a ha)]
    rfl
  rw [aggregationsOf, Sequencing.mapM_eq_ok_iff, List.map_map]
  exact List.map_congr_left hone

end Vocabulary

end Sift
