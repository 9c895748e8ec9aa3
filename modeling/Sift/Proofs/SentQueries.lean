import Sift.Proofs.Leaves
import Sift.Proofs.SentDocuments

/-!
# Queries that are sent

A query comes back as it was exactly if a document can say its values. The bounds of a range are
fields that may be absent, so that a bound that is null is lost.

## Main definitions

* `Sift.Condition.Expressible`, `Sift.Query.Expressible`: queries that a document can say.

## Main results

* `Sift.Query.expressible_of_ofJson?`: the queries of documents.
* `Sift.Query.survives_iff`: the queries that survive.
-/

set_option autoImplicit false

namespace Sift

open Json (Rewrites Carries WritableTable)

/-! ## Conditions -/

/-- A document can say the bounds, and none of them is null. -/
structure Bounds.Expressible (b : Bounds) : Prop where
  /-- The bound that values lie below. -/
  lt : ∀ v ∈ b.lt, v ≠ .null ∧ v.Expressible
  /-- The bound that values do not exceed. -/
  lte : ∀ v ∈ b.lte, v ≠ .null ∧ v.Expressible
  /-- The bound that values lie above. -/
  gt : ∀ v ∈ b.gt, v ≠ .null ∧ v.Expressible
  /-- The bound that values reach. -/
  gte : ∀ v ∈ b.gte, v ≠ .null ∧ v.Expressible

/-- A document can say the values of the condition. -/
def Condition.Expressible : Condition → Prop
  | term v => v.Expressible
  | terms vs => ∀ v ∈ vs, v.Expressible
  | range b | dateRange b _ => b.Expressible
  | phrase _ | startsWith _ | wildcard _ | regex _ => True

/-- The members for bounds say them if a document can say the values. -/
lemma Bounds.carries_of_expressible {b : Bounds} (h : b.Expressible) :
    Carries b.entries fun u => ofFields? u = some b := by
  have hbound {key : String} {o : Option Value} (ho : ∀ v ∈ o, v ≠ .null ∧ v.Expressible) :
      Carries [(key, o.map Value.toJson)] fun u => Json.optional key bound? u = some o :=
    Rewrites.optional (fun v hv => ⟨(ho v hv).2.toJson_ne_null (ho v hv).1, (ho v hv).2.rewrites⟩)
      key
  refine ((hbound h.lt).cons ((hbound h.lte).cons ((hbound h.gt).cons (hbound h.gte)))).imp
    fun u hu => ?_
  obtain ⟨h₁, h₂, h₃, h₄⟩ := hu
  rw [ofFields?, h₁, h₂, h₃, h₄]

/-- The bounds of a document can be said. -/
lemma Bounds.expressible_of_ofFields? {t : Table Json} (ht : WritableTable t) {b : Bounds}
    (h : ofFields? t = some b) : b.Expressible := by
  have hbound : ∀ x v, x.Writable → x ≠ .null → bound? x = some v → v ≠ .null ∧ v.Expressible :=
    fun x v hx hne hv => Option.some.inj hv ▸
      ⟨Value.ofJson_ne_null hx hne, Value.expressible_ofJson hx⟩
  unfold ofFields? at h
  split at h
  · rename_i hlt hlte hgt hgte
    obtain rfl := Option.some.inj h
    exact ⟨Json.forall_of_optional hbound ht hlt, Json.forall_of_optional hbound ht hlte,
      Json.forall_of_optional hbound ht hgt, Json.forall_of_optional hbound ht hgte⟩
  · cases h

namespace Condition

/-- The members for a condition say it if a document can say the values. -/
lemma carries_of_expressible {c : Condition} (h : c.Expressible) :
    Carries c.entries fun u => ofFields? c.kind u = some c := by
  cases c with
  | term v =>
    refine (h.rewrites.required "value").imp fun u hu => ?_
    rw [kind, ofFields?, hu, Option.map_some]
  | terms vs =>
    refine ((Rewrites.list fun v hv => (h v hv).rewrites).required "values").imp fun u hu => ?_
    rw [kind, ofFields?, hu, Option.map_some]
  | phrase tokens =>
    have htokens : ∀ s ∈ tokens, Rewrites Json.text? .str s := fun s _ => Json.rewrites_text s
    refine ((Rewrites.list htokens).required "tokens").imp fun u hu => ?_
    rw [kind, ofFields?, hu, Option.map_some]
  | startsWith s | wildcard s | regex s =>
    refine ((Json.rewrites_text s).required "value").imp fun u hu => ?_
    rw [kind, ofFields?, hu, Option.map_some]
  | range b =>
    refine (Bounds.carries_of_expressible h).imp fun u hu => ?_
    rw [kind, ofFields?, hu, Option.map_some]
  | dateRange b timeZone =>
    refine ((Bounds.carries_of_expressible h).append
      (Json.carries_optional_text "time_zone" timeZone)).imp fun u hu => ?_
    rw [kind, ofFields?, hu.1, hu.2]

/-- The condition of a document can be said. -/
lemma expressible_of_ofFields? {t : Table Json} (ht : WritableTable t) {kind : String}
    {c : Condition} (h : ofFields? kind t = some c) : c.Expressible := by
  have hvalue : ∀ x v, x.Writable → (some (Value.ofJson x) : Option Value) = some v →
      v.Expressible := fun x v hx hv => Option.some.inj hv ▸ Value.expressible_ofJson hx
  unfold ofFields? at h
  split at h
  · obtain ⟨v, hv, rfl⟩ := Option.map_eq_some_iff.1 h
    exact Json.of_required hvalue ht hv
  · obtain ⟨vs, hvs, rfl⟩ := Option.map_eq_some_iff.1 h
    exact Json.of_required (fun x vs hx h => Json.forall_of_list? hvalue hx h) ht hvs
  · obtain ⟨tokens, -, rfl⟩ := Option.map_eq_some_iff.1 h
    trivial
  · obtain ⟨s, -, rfl⟩ := Option.map_eq_some_iff.1 h
    trivial
  · obtain ⟨s, -, rfl⟩ := Option.map_eq_some_iff.1 h
    trivial
  · obtain ⟨s, -, rfl⟩ := Option.map_eq_some_iff.1 h
    trivial
  · obtain ⟨b, hb, rfl⟩ := Option.map_eq_some_iff.1 h
    exact Bounds.expressible_of_ofFields? ht hb
  · split at h
    · rename_i hb _
      obtain rfl := Option.some.inj h
      exact Bounds.expressible_of_ofFields? ht hb
    · cases h
  · cases h

end Condition

/-! ## Queries -/

namespace Query

/-- Queries that a document can say. -/
inductive Expressible : Query → Prop where
  | and {of : List Query} (each : ∀ q ∈ of, Expressible q) : Expressible (.and of)
  | or {of : List Query} (each : ∀ q ∈ of, Expressible q) : Expressible (.or of)
  | not {of : List Query} (each : ∀ q ∈ of, Expressible q) : Expressible (.not of)
  | leaf (field : String) {c : Condition} (condition : c.Expressible) :
    Expressible (.leaf field c)
  | text (s : String) (field : Option String) : Expressible (.text s field)
  | named (name : String) {v : Value} (value : v.Expressible) : Expressible (.named name v)
  | matchAll : Expressible .matchAll

/-- A query that a document can say is written and read again. -/
lemma Expressible.rewrites {q : Query} (h : q.Expressible) (nested : Bool) :
    Rewrites (ofJson? nested) toJson q := by
  induction h generalizing nested with
  | and _ ih => exact rewrites_connective (fun q hq => ih q hq true) (.inl rfl) nested
  | or _ ih => exact rewrites_connective (fun q hq => ih q hq true) (.inr (.inl rfl)) nested
  | not _ ih => exact rewrites_connective (fun q hq => ih q hq true) (.inr (.inr rfl)) nested
  | @leaf field c hc =>
    refine rewrites_of_entries ?_ nested
    refine ((Json.carries_text _ _).cons (((Json.rewrites_text field).required "field").cons
      (Condition.carries_of_expressible hc))).imp fun u hu => ?_
    obtain ⟨-, h₁, h₂⟩ := hu
    rw [kind, assemble?_condition, flat?_condition h₁ h₂]
  | text s field =>
    refine rewrites_of_entries ?_ nested
    refine ((Json.carries_text _ _).cons (((Json.rewrites_text s).required "query").cons
      (Json.carries_optional_text "default_field" field))).imp fun u hu => ?_
    obtain ⟨-, h₁, h₂⟩ := hu
    simp only [kind, assemble?, flat?, Json.fields?, Option.bind_some, h₁, h₂]
    rfl
  | named name hv =>
    refine rewrites_of_entries ?_ nested
    refine ((Json.carries_text _ _).cons (((Json.rewrites_text name).required "name").cons
      (hv.rewrites.required "value"))).imp fun u hu => ?_
    obtain ⟨-, h₁, h₂⟩ := hu
    simp only [kind, assemble?, flat?, Json.fields?, Option.bind_some, h₁, h₂]
    rfl
  | matchAll =>
    refine rewrites_of_entries ?_ nested
    exact (Json.carries_text _ _).imp fun _ _ => rfl

/-- What a document without parts says can be said. -/
lemma expressible_of_flat? {kind : String} {rest : Json} (hrest : rest.Writable) {q : Query}
    (h : flat? kind rest = some q) : q.Expressible := by
  unfold flat? at h
  split at h
  · obtain ⟨t, -, h⟩ := Option.bind_eq_some_iff.1 h
    split at h
    · obtain rfl := Option.some.inj h
      exact .text _ _
    · cases h
  · obtain ⟨t, ht, h⟩ := Option.bind_eq_some_iff.1 h
    split at h
    · rename_i hv
      obtain rfl := Option.some.inj h
      refine .named _ (Json.of_required (fun x v hx hxv => ?_) (hrest.fields? ht) hv)
      exact Option.some.inj hxv ▸ Value.expressible_ofJson hx
    · cases h
  · obtain ⟨t, -, rfl⟩ := Option.map_eq_some_iff.1 h
    exact .matchAll
  · obtain ⟨t, ht, h⟩ := Option.bind_eq_some_iff.1 h
    split at h
    · rename_i hc
      obtain rfl := Option.some.inj h
      exact .leaf _ (Condition.expressible_of_ofFields? (hrest.fields? ht) hc)
    · cases h

/-- **The queries of documents** can be said, and so can the queries of a list of them.

**Proof sketch.** Induction on the document. The parts of a connective are elements of a list that
is a member or an element of the document, so that such lists are carried along. -/
theorem expressible_of_ofJson? {x : Json} (hx : x.Writable) :
    (∀ nested q, ofJson? nested x = some q → q.Expressible) ∧
      ∀ qs, parts? x = some qs → ∀ q ∈ qs, q.Expressible := by
  -- A document that is not flat has the parts of its query in one of its children.
  have hstep : ∀ {kind : String} {parts : Option (List Query)} {rest : Json} {q : Query},
      rest.Writable → (∀ qs, parts = some qs → ∀ q ∈ qs, q.Expressible) →
      assemble? kind parts rest = some q → q.Expressible := by
    intro kind parts rest q hrest hparts h
    rcases assemble?_cases h with ⟨of, hof, rfl | rfl | rfl⟩ | hflat
    · exact .and (hparts of hof)
    · exact .or (hparts of hof)
    · exact .not (hparts of hof)
    · exact expressible_of_flat? hrest hflat
  induction hx with
  | null | bool | int | double | str =>
    exact ⟨fun nested q h => (by cases h), fun qs h => by cases h⟩
  | @arr items each ih =>
    refine ⟨?_, fun qs hqs q hq => ?_⟩
    · cases items with
      | nil => exact fun nested q h => by cases h
      | cons tag rest =>
        intro nested q h
        rw [ofJson?] at h
        split at h
        · refine hstep (.arr fun x hx => each x (List.mem_cons_of_mem _ hx)) ?_ h
          intro qs hqs
          unfold onlyParts? at hqs
          split at hqs
          · exact (ih _ (List.mem_cons_of_mem _ List.mem_cons_self)).2 qs hqs
          · cases hqs
        · cases h
    · rw [parts?_eq_list?] at hqs
      obtain ⟨x, hx, hxq⟩ := Json.exists_of_readAll hqs hq
      exact (ih x hx).1 true q hxq
  | @obj members sorted each ih =>
    refine ⟨fun nested q h => ?_, fun qs h => by cases h⟩
    rw [ofJson?] at h
    split at h
    · refine hstep (.obj sorted each) ?_ h
      intro qs hqs
      rw [partsIn?_eq_bind] at hqs
      obtain ⟨x, hx, hxqs⟩ := Option.bind_eq_some_iff.1 hqs
      exact (ih _ (Table.mem_of_find? hx)).2 qs hxqs
    · cases h

/-- **Queries survive** exactly if a document can say them. -/
theorem survives_iff (q : Query) (nested : Bool) :
    Json.Survives (ofJson? nested) toJson q ↔ q.Expressible := by
  constructor
  · intro h
    exact (expressible_of_ofJson? h.writable).1 nested q h.reads
  · exact fun h => (h.rewrites nested).survives

end Query

end Sift
