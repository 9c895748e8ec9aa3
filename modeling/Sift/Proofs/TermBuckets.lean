import Sift.Proofs.GatheredRecords
import Sift.Proofs.NamedBuckets
import Sift.Proofs.TermComparison

/-!
# Buckets of terms and their names

The name of a bucket of terms stands for a query with the key of the bucket as its term. The bucket
counts the records with a value that has the text of the key, and the records without a value where
the key has the text of the substitute for it. The query selects the records with a value that
equals the key, and does not know the substitute.

## Main definitions

* `Sift.Grouping.countsTerm`, `Sift.Grouping.selectsTerm`: the two judgments of a record.
* `Sift.Grouping.TermAstray`: the records that are judged in two ways.

## Main results

* `Sift.Grouping.selectsTerm_eq_countsTerm_iff`: the two judgments of one record.
* `Sift.Vocabulary.term_bucket_iff`: what a bucket counts and what its name selects.
-/

set_option autoImplicit false

namespace Sift

namespace Grouping

variable {substitute : Option Value} {key : Value} {vs : List Value}

/-- Whether the bucket of terms with a key counts a record with the given values. -/
def countsTerm (substitute : Option Value) (key : Value) (vs : List Value) : Bool :=
  let values := vs.filter fun v => !v.isNull
  (if values.isEmpty then substitute.toList else values).any fun v => v.toText = key.toText

/-- Whether the query for a term selects a record with the given values. -/
def selectsTerm (key : Value) (vs : List Value) : Bool := vs.any fun v => v.matchesTerm key

/-- Values that are judged in two ways. -/
inductive TermAstray (substitute : Option Value) (key : Value) (vs : List Value) : Prop where
  /-- No values at all, where the substitute for them has the text of the key. -/
  | absent (none : ∀ v ∈ vs, v = .null) {s : Value} (mem : s ∈ substitute)
      (same : s.toText = key.toText) : TermAstray substitute key vs
  /-- A value with the text of the key is lost, and no other one equals the key. -/
  | lost {v : Value} (mem : v ∈ vs) (lost : v.Lost key)
      (alone : ∀ w ∈ vs, w = .null ∨ w.Lost key ∨ w.toText ≠ key.toText ∧ ¬ w.Resembles key) :
      TermAstray substitute key vs
  /-- A value resembles the key, and no other one has its text. -/
  | resembling {v : Value} (mem : v ∈ vs) (resembles : v.Resembles key)
      (alone : ∀ w ∈ vs, w = .null ∨ w.toText ≠ key.toText) : TermAstray substitute key vs

/-- The query selects a value with the text of the key that is not lost, or one that resembles it.
-/
lemma selectsTerm_iff (hvs : ∀ v ∈ vs, v = .null ∨ v.Present) (hkey : key.Present) :
    selectsTerm key vs = true ↔
      ∃ v ∈ vs, v.toText = key.toText ∧ v ≠ .null ∧ ¬ v.Lost key ∨ v.Resembles key := by
  have hnull : Value.null.matchesTerm key = false := by cases hkey <;> rfl
  rw [selectsTerm, List.any_eq_true]
  refine exists_congr fun v => and_congr_right fun hv => ?_
  rcases hvs v hv with rfl | hpresent
  · rw [hnull]
    refine iff_of_false nofun ?_
    rintro (⟨-, hne, -⟩ | hresembles)
    · exact hne rfl
    · cases hresembles
  · have hne : v ≠ .null := by
      rintro rfl
      cases hpresent
    rw [Value.matchesTerm_iff hpresent hkey, and_iff_right hne]

/-- The bucket counts a value with the text of the key, or the substitute for missing values. -/
lemma countsTerm_iff : countsTerm substitute key vs = true ↔
    (∃ v ∈ vs, v ≠ .null ∧ v.toText = key.toText) ∨
      (∀ v ∈ vs, v = .null) ∧ ∃ s ∈ substitute, s.toText = key.toText := by
  have hnull : ∀ v : Value, (!v.isNull) = true ↔ v ≠ .null := fun v => by
    cases v <;> simp [Value.isNull]
  unfold countsTerm
  by_cases hnone : ∀ v ∈ vs, v = .null
  · have hempty : (vs.filter fun v => !v.isNull) = [] :=
      List.filter_eq_nil_iff.2 fun v hv => mt (hnull v).1 (not_not_intro (hnone v hv))
    have hfirst : ¬ ∃ v ∈ vs, v ≠ .null ∧ v.toText = key.toText :=
      fun ⟨v, hv, hne, _⟩ => hne (hnone v hv)
    rw [or_iff_right hfirst, and_iff_right hnone]
    simp [hempty]
  · have hempty : (vs.filter fun v => !v.isNull).isEmpty = false := by
      refine Bool.eq_false_iff.2 fun hempty => hnone fun v hv => by_contra fun hne => ?_
      exact List.filter_eq_nil_iff.1 (List.isEmpty_iff.1 hempty) v hv ((hnull v).2 hne)
    rw [or_iff_left fun h => hnone h.1]
    simp only [hempty, Bool.false_eq_true, if_false, List.any_eq_true, List.mem_filter, hnull,
      decide_eq_true_eq, and_assoc]

section

variable (hvs : ∀ v ∈ vs, v = .null ∨ v.Present) (hkey : key.Present)

include hvs hkey

/-- Values that are astray are judged in two ways. -/
lemma TermAstray.selectsTerm_ne (h : TermAstray substitute key vs) :
    selectsTerm key vs ≠ countsTerm substitute key vs := by
  rw [Ne, Bool.eq_iff_iff, selectsTerm_iff hvs hkey, countsTerm_iff]
  intro hiff
  cases h with
  | absent hnone hs hsame =>
    obtain ⟨w, hw, ⟨-, hne, -⟩ | hresembles⟩ := hiff.2 (.inr ⟨hnone, _, hs, hsame⟩)
    · exact hne (hnone w hw)
    · rw [hnone w hw] at hresembles
      cases hresembles
  | lost hv hlost halone =>
    obtain ⟨hsame, hne⟩ := hlost.toText_eq
    obtain ⟨w, hw, h⟩ := hiff.2 (.inl ⟨_, hv, hne, hsame⟩)
    rcases halone w hw with rfl | hlost | ⟨hother, hresembles⟩
    · rcases h with ⟨-, hne, -⟩ | hresembles
      · exact hne rfl
      · cases hresembles
    · rcases h with ⟨-, -, hkept⟩ | hresembles
      · exact hkept hlost
      · exact hresembles.toText_ne hlost.toText_eq.1
    · rcases h with ⟨hsame, -⟩ | h
      · exact hother hsame
      · exact hresembles h
  | resembling hv hresembles halone =>
    rcases hiff.1 ⟨_, hv, .inr hresembles⟩ with ⟨w, hw, hne, hsame⟩ | ⟨hnone, -⟩
    · rcases halone w hw with h | h
      · exact hne h
      · exact h hsame
    · rw [hnone _ hv] at hresembles
      cases hresembles

/-- Values that are not astray are judged in one way. -/
lemma selectsTerm_eq_of_not_termAstray (h : ¬ TermAstray substitute key vs) :
    selectsTerm key vs = countsTerm substitute key vs := by
  rw [Bool.eq_iff_iff, selectsTerm_iff hvs hkey, countsTerm_iff]
  constructor
  · rintro ⟨v, hv, ⟨hsame, hne, -⟩ | hresembles⟩
    · exact .inl ⟨v, hv, hne, hsame⟩
    · -- A value that resembles the key is not alone.
      by_contra hcounts
      refine h (.resembling hv hresembles fun w hw => or_iff_not_imp_left.2 ?_)
      exact fun hne hsame => hcounts (.inl ⟨w, hw, hne, hsame⟩)
  · rintro (⟨v, hv, hne, hsame⟩ | ⟨hnone, s, hs, hsame⟩)
    · -- A value that is lost is not alone.
      by_contra hselects
      have hlost : ∀ w ∈ vs, w ≠ .null → w.toText = key.toText → w.Lost key :=
        fun w hw hne hsame => by_contra fun hkept =>
          hselects ⟨w, hw, .inl ⟨hsame, hne, hkept⟩⟩
      refine h (.lost hv (hlost v hv hne hsame) fun w hw => or_iff_not_imp_left.2 ?_)
      intro hne
      by_cases hsame : w.toText = key.toText
      · exact .inl (hlost w hw hne hsame)
      · exact .inr ⟨hsame, fun hw' => hselects ⟨w, hw, .inr hw'⟩⟩
    · exact absurd (.absent hnone hs hsame) h

/-- **One record.** The two judgments of a record agree exactly if its values are not astray. -/
theorem selectsTerm_eq_countsTerm_iff :
    selectsTerm key vs = countsTerm substitute key vs ↔ ¬ TermAstray substitute key vs :=
  ⟨fun h hastray => hastray.selectsTerm_ne hvs hkey h,
    selectsTerm_eq_of_not_termAstray hvs hkey⟩

end

/-! ## Groups of terms -/

variable {R : Type} {E : Evaluator R} {field : String} {rs : List R} {g : Group R}

/-- A group of terms has the key of a value, and the records that its bucket counts. -/
lemma records_of_termGroups (h : g ∈ termGroups E field substitute rs) :
    (∃ r ∈ rs, g.key ∈ valuesOr E field substitute r) ∧
      g.records = rs.filter fun r => countsTerm substitute g.key (E.extract r field) := by
  obtain ⟨⟨⟨text, key⟩, records⟩, he, rfl⟩ := List.mem_map.1 h
  obtain ⟨⟨r, hr, hmem⟩, hrecords⟩ := mem_gather he
  obtain ⟨v, hv, heq⟩ := List.mem_map.1 hmem
  obtain ⟨rfl, rfl⟩ := Prod.mk.inj heq
  refine ⟨⟨r, hr, hv⟩, hrecords.trans ?_⟩
  simp only [List.any_map]
  rfl

/-- A value of a record or the substitute for it is not null. -/
lemma present_of_mem_valuesOr {r : R} (hvalues : ∀ v ∈ E.extract r field, v = .null ∨ v.Present)
    (hsubstitute : ∀ s ∈ substitute, s.Present) {v : Value}
    (hv : v ∈ valuesOr E field substitute r) : v.Present := by
  unfold valuesOr at hv
  dsimp only at hv
  split at hv
  · exact hsubstitute v (Option.mem_toList.1 hv)
  · obtain ⟨hv, hnull⟩ := List.mem_filter.1 hv
    rcases hvalues v hv with rfl | hpresent
    · cases hnull
    · exact hpresent

end Grouping

namespace Vocabulary

variable {R : Type} [Environment] {E : Evaluator R} {now : Instant} {v : Vocabulary}
  {name field : String} {d : Aggregation} {size : Option Nat} {sort : Option BucketOrder}
  {format : Option String} {substitute : Option Value}

open Grouping

/-- **Buckets of terms and their names.** If a request asks for a name for terms, a bucket counts
the records of the request with a value that has the text of its key, and those without a value
where the substitute for it has this text. Its name stands for the query with the key as its term,
and finds as many records of the request as this query selects, in any order that sort keys put the
records in. Where the values are those of JSON documents and null is no substitute, both are the
same records exactly if the values of no record are astray.

**Proof sketch.** The bucket is a group of the records of the request, and its key is a value of
one of them or the substitute. Both judgments look at one record at a time, at the same values, and
`Grouping.selectsTerm_eq_countsTerm_iff` says for which values they agree. -/
theorem term_bucket_iff (hqueries : Table.find? name v.queries = none)
    (hd : Table.find? name v.aggregations = some d)
    (hkind : d.kind = .onField field (.terms size sort format substitute)) {a : Aggregation}
    (ha : a.kind = .named name) {r r' : SearchRequest} (hr : a ∈ r.aggs)
    (honly : ∀ a' ∈ r.aggs, a'.key = a.key → a' = a) {s s₁ : Store R} {result : SearchResult R}
    (hsearch : (v.decorate (Store.backend E now)).search r s = (.ok result, s₁))
    {found : AggregationResult} (hfound : Table.find? a.key result.aggs = some found)
    {bs : List Bucket} (hbs : found.buckets = some bs) {b : Bucket} (hb : b ∈ bs)
    (hvalues : ∀ x ∈ s.records, ∀ w ∈ E.extract x field, w = .null ∨ w.Present)
    (hsubstitute : ∀ w ∈ substitute, w.Present) (hparams : r'.params = r.params)
    (hquery : r'.query = some (.and (r.query.toList ++ [.named name b.key])))
    (haggs : r'.aggs = [])
    (hsorts : Sorting.Sortable (SortKey.compareRecords E (r'.sorts.map v.sortKey)) s.records) :
    ∃ rs, v.matching E now r s = .ok rs ∧
      b.count = (rs.filter fun x => countsTerm substitute b.key (E.extract x field)).length ∧
      v.query r.timeZone? (.named name b.key) = .ok (.leaf field (.term b.key)) ∧
      (∃ result', (v.decorate (Store.backend E now)).search r' s₁ = (.ok result', s₁) ∧
        result'.totalItems =
          (rs.filter fun x => selectsTerm b.key (E.extract x field)).length) ∧
      ((∀ x ∈ rs, selectsTerm b.key (E.extract x field) =
          countsTerm substitute b.key (E.extract x field)) ↔
        ∀ x ∈ rs, ¬ TermAstray substitute b.key (E.extract x field)) := by
  obtain ⟨rfl, rs, gs, limit, value, hrs, hfind, g, hg, hgkey, hgcount⟩ :=
    exists_group_of_named hd ha hr honly hsearch hfound hbs hb
  have hmatched : ∀ x ∈ rs, x ∈ s₁.records := by
    obtain ⟨q, p, -, -, hselect⟩ := matching_eq_ok_iff.1 hrs
    exact fun x hx => ((Query.mem_select hselect).1 hx).1
  -- The group of the bucket is one of terms.
  rw [hkind, AggregationKind.find] at hfind
  obtain ⟨sorted, heq, hperm⟩ := exists_sorted_of_find hfind
  obtain ⟨rfl, -, -⟩ := Finding.groups.inj heq
  obtain ⟨⟨x, hx, hxkey⟩, hrecords⟩ := records_of_termGroups (hperm.mem_iff.1 hg)
  have hpresent : b.key.Present :=
    hgkey ▸ present_of_mem_valuesOr (hvalues x (hmatched x hx)) hsubstitute hxkey
  -- The name stands for the term.
  have hsel : d.kind.selection name b.key r.timeZone? = .ok (.leaf field (.term b.key)) := by
    rw [hkind]
    rfl
  have hcompile : (Query.leaf field (.term b.key)).compile E now =
      .ok fun x => .ok (selectsTerm b.key (E.extract x field)) := rfl
  have hselected : Query.select (fun x => .ok (selectsTerm b.key (E.extract x field))) rs =
      .ok (rs.filter fun x => selectsTerm b.key (E.extract x field)) :=
    Query.select_eq_filter fun _ _ => rfl
  refine ⟨rs, hrs, ?_, query_named hqueries hd hsel hcompile,
    search_and_named hrs hqueries hd hsel hcompile hselected hparams hsorts hquery haggs,
    forall₂_congr fun x hx => selectsTerm_eq_countsTerm_iff (hvalues x (hmatched x hx)) hpresent⟩
  rw [hgcount, hrecords, hgkey]

end Vocabulary

/-! ## Shirts by colour -/

namespace Vocabulary

open Grouping

/-- The colours of shirts, with a word for shirts that have none. -/
def colours : Aggregation where
  key := "colours"
  kind := .onField "colour" (.terms none none none (some (.str "none")))

/-- A vocabulary with a name for the colours. -/
def wardrobe : Vocabulary where
  aggregations := [("colours", colours)]

/-- Shirts that are nothing but their colour. -/
def shirts : Store (Option String) := Store.ofList [("1", none), ("2", some "red")]

/-- The colour of a shirt, at every path. -/
def colourOf : Evaluator (Option String) := fun colour _ => .ok (colour.elim .null .str)

section Examples

attribute [local instance] Environment.isolated

/-- The bucket of the shirts without a colour counts the shirts that have the text of its key, its
name finds the shirts that equal its key, and they are the same unless a shirt is astray. -/
theorem term_bucket_of_shirts :
    ∃ rs, wardrobe.matching colourOf Instant.earliest
        { aggs := [{ key := "x", kind := .named "colours" }] } shirts = .ok rs ∧
      1 = (rs.filter fun x => countsTerm (some (.str "none")) (.str "none")
        (colourOf.extract x "colour")).length ∧
      wardrobe.query none (.named "colours" (.str "none")) =
        .ok (.leaf "colour" (.term (.str "none"))) ∧
      (∃ result', (wardrobe.decorate (Store.backend colourOf Instant.earliest)).search
          { query := some (.and [.named "colours" (.str "none")]) } shirts =
            (.ok result', shirts) ∧
        result'.totalItems =
          (rs.filter fun x => selectsTerm (.str "none") (colourOf.extract x "colour")).length) ∧
      ((∀ x ∈ rs, selectsTerm (.str "none") (colourOf.extract x "colour") =
          countsTerm (some (.str "none")) (.str "none") (colourOf.extract x "colour")) ↔
        ∀ x ∈ rs, ¬ TermAstray (some (.str "none")) (.str "none")
          (colourOf.extract x "colour")) :=
  term_bucket_iff (d := colours) (a := { key := "x", kind := .named "colours" })
    (r := { aggs := [{ key := "x", kind := .named "colours" }] })
    (b := { key := .str "none", count := 1 })
    rfl rfl rfl rfl List.mem_cons_self (fun _ h _ => List.mem_singleton.1 h) rfl rfl rfl
    List.mem_cons_self
    (fun x _ w hw => by
      cases x with
      | none => cases hw
      | some colour => exact .inr (List.mem_singleton.1 hw ▸ .str colour))
    (fun w hw => Option.some.inj hw ▸ .str "none") rfl rfl rfl
    (SearchRequest.sortable_nil _ _)

/-- One shirt has no colour, but the name of its bucket finds none: the query for the substitute
does not select records without a value. -/
theorem count_of_shirts :
    (wardrobe.decorate (Store.backend colourOf Instant.earliest)).search
        { aggs := [{ key := "x", kind := .named "colours" }] } shirts =
      (.ok { aggs := [("x", {
               key := "x"
               field := some "colour"
               buckets := some [{ key := .str "none", count := 1 },
                 { key := .str "red", count := 1 }] })]
             items := some [none, some "red"]
             totalItems := 2 }, shirts) ∧
    (wardrobe.decorate (Store.backend colourOf Instant.earliest)).count
        (.named "colours" (.str "none")) shirts = (.ok 0, shirts) :=
  ⟨rfl, rfl⟩

end Examples

end Vocabulary

end Sift
