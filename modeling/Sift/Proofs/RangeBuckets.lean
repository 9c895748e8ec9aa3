import Sift.Proofs.BoundComparison
import Sift.Proofs.NamedBuckets

/-!
# Buckets of ranges and their names

The name of a bucket of ranges stands for a query with the bounds of the range. The bucket counts
the records with a number in the range, and the query selects those with a number within the
bounds, which is not always the same: a few numbers are judged in two ways, and a range without
bounds is a query that even records without a number meet.

## Main definitions

* `Sift.RangeEntry.counts`, `Sift.RangeEntry.selects`: the two judgments of a record.
* `Sift.RangeEntry.Astray`: the records that are judged in two ways.

## Main results

* `Sift.RangeEntry.selects_eq_counts_iff`: the two judgments of one record.
* `Sift.Vocabulary.range_bucket_iff`: what a bucket counts and what its name selects.
-/

set_option autoImplicit false

namespace Sift

namespace RangeEntry

variable {e : RangeEntry Double}

/-- The bounds of a range. -/
def bounds (e : RangeEntry Double) : Bounds where
  gte := e.lower.map .double
  lt := e.upper.map .double

/-- Whether the bucket of a range counts a record with the given values. -/
def counts (e : RangeEntry Double) (vs : List Value) : Bool :=
  (vs.filterMap Value.toDouble?).any e.contains

/-- Whether the query for a range selects a record with the given values. -/
def selects (e : RangeEntry Double) (vs : List Value) : Bool := Value.meetLimits e.bounds.limits vs

/-- Values that are judged in two ways: none at all where the range has no bounds, and numbers that
are astray at a bound. -/
def Astray (e : RangeEntry Double) (vs : List Value) : Prop :=
  (vs = [] ∧ e.lower = none ∧ e.upper = none) ∨
    ∃ v ∈ vs, ∃ y, (y ∈ e.lower ∨ y ∈ e.upper) ∧ Value.Astray y v

/-- A range without bounds selects records without values. -/
lemma selects_nil : e.selects [] = decide (e.lower = none ∧ e.upper = none) := by
  obtain ⟨key, lower, upper⟩ := e
  cases lower <;> cases upper <;> simp [selects, bounds, Bounds.limits, Value.meetLimits]

/-- A range selects a single value that meets both bounds. -/
lemma selects_singleton (v : Value) : e.selects [v] =
    ((e.lower.all fun y => BoundSide.gte.accepts (v.compareBound (.double y))) &&
      e.upper.all fun y => BoundSide.lt.accepts (v.compareBound (.double y))) := by
  obtain ⟨key, lower, upper⟩ := e
  cases lower <;> cases upper <;>
    simp [selects, bounds, Bounds.limits, Value.meetLimits, Bool.and_comm]

/-- A range counts a single value that is a number in it. -/
lemma counts_singleton {v : Value} {x : Double} (hx : v.toDouble? = some x) :
    e.counts [v] = e.contains x := by
  simp [counts, hx]

/-- A number at a bound: it is accepted as what it counts as exactly if it is not astray. -/
lemma accepts_eq_iff {v : Value} (hv : v.Numeric) {x y : Double} (hx : v.toDouble? = some x)
    (hnan : x.isNaN = false) (hy : y.isFinite = true) :
    (BoundSide.gte.accepts (v.compareBound (.double y)) = y.numLe x ↔ ¬ v.Astray y) ∧
      (BoundSide.lt.accepts (v.compareBound (.double y)) = x.numLt y ↔ ¬ v.Astray y) := by
  have hynan := Floating.isNaN_of_isFinite hy
  have hle : y.numLe x = decide (y.signed ≤ x.signed) := by simp [Floating.numLe, hynan, hnan]
  have hlt : x.numLt y = !decide (y.signed ≤ x.signed) := by
    simp [Floating.numLt, hynan, hnan, ← decide_not]
  have hgte : ∀ o, BoundSide.gte.accepts o = decide (o ≠ .lt) := by decide
  have haccepts : ∀ o, BoundSide.lt.accepts o = !decide (o ≠ .lt) := by decide
  rw [hle, hlt, hgte, haccepts, Bool.not_inj_iff, decide_eq_decide]
  exact ⟨hv.reaches_iff hx hy, hv.reaches_iff hx hy⟩

/-- What is asked of an end that may be open, in two ways. -/
lemma all_eq_all_iff {α : Type} {o : Option α} {p q : α → Bool} {P : α → Prop}
    (h : ∀ y ∈ o, (p y = q y ↔ ¬ P y)) : o.all p = o.all q ↔ ¬ ∃ y ∈ o, P y := by
  cases o with
  | none => simp
  | some y => simpa using h y rfl

/-- Two conjunctions whose parts differ where something holds are equal where it does not hold, or
where neither holds. -/
lemma and_eq_and_iff {a b c d : Bool} {P Q : Prop} (hac : a = c ↔ ¬ P) (hbd : b = d ↔ ¬ Q) :
    (a && b) = (c && d) ↔ (P ∨ Q → (a && b) = false ∧ (c && d) = false) := by
  by_cases hP : P <;> by_cases hQ : Q <;> simp only [hP, hQ, not_true] at hac hbd ⊢ <;>
    revert a b c d <;> decide

/-- **One record.** The two judgments of a record with at most one number agree exactly if its
values are not astray, or if neither judgment admits it. -/
theorem selects_eq_counts_iff (hlower : ∀ y ∈ e.lower, y.isFinite = true)
    (hupper : ∀ y ∈ e.upper, y.isFinite = true) {vs : List Value}
    (hvs : vs = [] ∨ ∃ v, v.Numeric ∧ vs = [v]) :
    e.selects vs = e.counts vs ↔
      (e.Astray vs → e.selects vs = false ∧ e.counts vs = false) := by
  rcases hvs with rfl | ⟨v, hv, rfl⟩
  · have hcounts : e.counts [] = false := rfl
    rw [hcounts, selects_nil]
    simp only [Astray, true_and, List.not_mem_nil, false_and, exists_false, or_false,
      decide_eq_false_iff_not, and_true]
    tauto
  · obtain ⟨x, hx, hnan⟩ := hv.exists_toDouble?
    have hastray : e.Astray [v] ↔
        (∃ y ∈ e.lower, v.Astray y) ∨ ∃ y ∈ e.upper, v.Astray y := by
      simp [Astray, or_and_right, exists_or]
    rw [selects_singleton, counts_singleton hx, contains, hastray]
    exact and_eq_and_iff
      (all_eq_all_iff fun y hy => (accepts_eq_iff hv hx hnan (hlower y hy)).1)
      (all_eq_all_iff fun y hy => (accepts_eq_iff hv hx hnan (hupper y hy)).2)

/-- The bounds of a range, found by the key of its bucket. -/
lemma boundsOfKey?_eq {α : Type} {text : α → String} {value : α → Value} {e : RangeEntry α}
    {ranges : List (RangeEntry α)} (he : e ∈ ranges)
    (hsingle : ∀ e' ∈ ranges, e'.bucketKey text = e.bucketKey text → e' = e) :
    Grouping.boundsOfKey? text value (e.bucketKey text) ranges =
      some { gte := e.lower.map value, lt := e.upper.map value } := by
  have hfind : (ranges.find? fun e' => e'.bucketKey text = e.bucketKey text) = some e := by
    cases hfind : ranges.find? fun e' => e'.bucketKey text = e.bucketKey text with
    | none => exact absurd (decide_eq_true rfl) (List.find?_eq_none.1 hfind e he)
    | some e' =>
      have hmatch := List.find?_some hfind
      rw [hsingle e' (List.mem_of_find?_eq_some hfind) (of_decide_eq_true hmatch)]
  rw [Grouping.boundsOfKey?, hfind]
  rfl

end RangeEntry

namespace Vocabulary

variable {R : Type} [Environment] {E : Evaluator R} {now : Instant} {v : Vocabulary}
  {name field : String} {d : Aggregation} {ranges : List (RangeEntry Double)}

/-- **Buckets of ranges and their names.** If a request asks for a name for ranges, a bucket whose
key belongs to one range counts the records of the request with a number in the range. Its name
stands for the query with the bounds of the range, and finds as many records of the request as this
query selects, in any order that sort keys put the records in. Where the bounds are finite and the
records have at most one number, both are the same records exactly if no values that are astray are
counted or selected.

**Proof sketch.** The bucket is a group of the records of the request, the one of the range with
its key. The name stands for the bounds of the same range. Both look at one record at a time, at
the same values, and `RangeEntry.selects_eq_counts_iff` says for which values they agree. -/
theorem range_bucket_iff (hqueries : Table.find? name v.queries = none)
    (hd : Table.find? name v.aggregations = some d)
    (hkind : d.kind = .onField field (.range ranges)) {a : Aggregation}
    (ha : a.kind = .named name) {r r' : SearchRequest} (hr : a ∈ r.aggs)
    (honly : ∀ a' ∈ r.aggs, a'.key = a.key → a' = a) {s s₁ : Store R} {result : SearchResult R}
    (hsearch : (v.decorate (Store.backend E now)).search r s = (.ok result, s₁))
    {found : AggregationResult} (hfound : Table.find? a.key result.aggs = some found)
    {bs : List Bucket} (hbs : found.buckets = some bs) {b : Bucket} (hb : b ∈ bs)
    {e : RangeEntry Double} (he : e ∈ ranges)
    (hkey : b.key = .str (e.bucketKey Floating.toText))
    (hsingle : ∀ e' ∈ ranges, e'.bucketKey Floating.toText = e.bucketKey Floating.toText → e' = e)
    (hlower : ∀ y ∈ e.lower, y.isFinite = true) (hupper : ∀ y ∈ e.upper, y.isFinite = true)
    (hvalues : ∀ x ∈ s.records, E.extract x field = [] ∨ ∃ n, n.Numeric ∧ E.extract x field = [n])
    (hparams : r'.params = r.params)
    (hquery : r'.query = some (.and (r.query.toList ++ [.named name b.key])))
    (haggs : r'.aggs = [])
    (hsorts : Sorting.Sortable (SortKey.compareRecords E (r'.sorts.map v.sortKey)) s.records) :
    ∃ rs, v.matching E now r s = .ok rs ∧
      b.count = (rs.filter fun x => e.counts (E.extract x field)).length ∧
      v.query r.timeZone? (.named name b.key) = .ok (.leaf field (.range e.bounds)) ∧
      (∃ result', (v.decorate (Store.backend E now)).search r' s₁ = (.ok result', s₁) ∧
        result'.totalItems = (rs.filter fun x => e.selects (E.extract x field)).length) ∧
      ((∀ x ∈ rs, e.selects (E.extract x field) = e.counts (E.extract x field)) ↔
        ∀ x ∈ rs, e.Astray (E.extract x field) →
          e.selects (E.extract x field) = false ∧ e.counts (E.extract x field) = false) := by
  obtain ⟨rfl, rs, gs, limit, value, hrs, hfind, g, hg, hgkey, hgcount⟩ :=
    exists_group_of_named hd ha hr honly hsearch hfound hbs hb
  -- The group of the bucket is that of the range.
  rw [hkind] at hfind
  obtain ⟨rfl, -, -⟩ := Finding.groups.inj (Except.ok.inj hfind)
  obtain ⟨e', he', rfl⟩ := List.mem_map.1 hg
  obtain rfl := hsingle e' he' (Value.str.inj (hgkey.symm.trans hkey))
  -- The name stands for the bounds of the range.
  have hsel : d.kind.selection name b.key r.timeZone? = .ok (.leaf field (.range e'.bounds)) := by
    have htext : b.key.toText = e'.bucketKey Floating.toText := by rw [hkey, Value.toText]
    rw [hkind, AggregationKind.selection, Grouping.selection, htext,
      RangeEntry.boundsOfKey?_eq he' hsingle]
    rfl
  have hcompile : (Query.leaf field (.range e'.bounds)).compile E now =
      .ok fun x => .ok (e'.selects (E.extract x field)) := rfl
  have hselected : Query.select (fun x => .ok (e'.selects (E.extract x field))) rs =
      .ok (rs.filter fun x => e'.selects (E.extract x field)) :=
    Query.select_eq_filter fun _ _ => rfl
  refine ⟨rs, hrs, hgcount, query_named hqueries hd hsel hcompile,
    search_and_named hrs hqueries hd hsel hcompile hselected hparams hsorts hquery haggs,
    ?_⟩
  obtain ⟨q, p, -, -, hselect⟩ := matching_eq_ok_iff.1 hrs
  exact forall₂_congr fun x hx => RangeEntry.selects_eq_counts_iff hlower hupper
    (hvalues x ((Query.mem_select hselect).1 hx).1)

end Vocabulary

/-! ## Parcels by weight -/

namespace Vocabulary

/-- The weights from one and a half on. -/
def heavy : RangeEntry Double where
  key := some "heavy"
  lower := some (Floating.ofRatio false 3 2)

/-- A vocabulary with a name for the heavy weights. -/
def weights : Vocabulary where
  aggregations := [("weights", { key := "weights", kind := .onField "weight" (.range [heavy]) })]

/-- Parcels that are nothing but their weight. -/
def parcels : Store Int64 := Store.ofList [("1", 1), ("2", 2)]

/-- The weight of a parcel, at every path. -/
def weightOf : Evaluator Int64 := fun weight _ => .ok (.long weight)

section Examples

attribute [local instance] Environment.isolated

/-- The bucket of the heavy parcels counts the parcels that `heavy` counts, its name finds the
parcels that `heavy` selects, and they are the same unless a weight is astray. -/
theorem range_bucket_of_heavy :
    ∃ rs, weights.matching weightOf Instant.earliest
        { aggs := [{ key := "x", kind := .named "weights" }] } parcels = .ok rs ∧
      1 = (rs.filter fun x => heavy.counts (weightOf.extract x "weight")).length ∧
      weights.query none (.named "weights" (.str "heavy")) =
        .ok (.leaf "weight" (.range heavy.bounds)) ∧
      (∃ result', (weights.decorate (Store.backend weightOf Instant.earliest)).search
          { query := some (.and [.named "weights" (.str "heavy")]) } parcels =
            (.ok result', parcels) ∧
        result'.totalItems =
          (rs.filter fun x => heavy.selects (weightOf.extract x "weight")).length) ∧
      ((∀ x ∈ rs, heavy.selects (weightOf.extract x "weight") =
          heavy.counts (weightOf.extract x "weight")) ↔
        ∀ x ∈ rs, heavy.Astray (weightOf.extract x "weight") →
          heavy.selects (weightOf.extract x "weight") = false ∧
            heavy.counts (weightOf.extract x "weight") = false) :=
  range_bucket_iff (d := { key := "weights", kind := .onField "weight" (.range [heavy]) })
    (a := { key := "x", kind := .named "weights" })
    (r := { aggs := [{ key := "x", kind := .named "weights" }] }) (e := heavy)
    (b := {
      key := .str "heavy"
      count := 1
      lower := some (.double (Floating.ofRatio false 3 2)) })
    rfl rfl rfl rfl List.mem_cons_self (fun _ h _ => List.mem_singleton.1 h) rfl rfl rfl
    List.mem_cons_self List.mem_cons_self rfl (fun _ h _ => List.mem_singleton.1 h)
    (fun y hy => Option.some.inj hy ▸ by decide +kernel) nofun
    (fun x _ => .inr ⟨.long x, .long x, rfl⟩) rfl rfl rfl
    (SearchRequest.sortable_nil _ _)

/-- One parcel is heavy, but the name of its bucket finds two: the parcel of weight one reaches the
bound without its fraction. -/
theorem count_of_heavy :
    (weights.decorate (Store.backend weightOf Instant.earliest)).search
        { aggs := [{ key := "x", kind := .named "weights" }] } parcels =
      (.ok { aggs := [("x", {
               key := "x"
               field := some "weight"
               buckets := some [{
                 key := .str "heavy"
                 count := 1
                 lower := some (.double (Floating.ofRatio false 3 2)) }] })]
             items := some [1, 2]
             totalItems := 2 }, parcels) ∧
    (weights.decorate (Store.backend weightOf Instant.earliest)).count
        (.named "weights" (.str "heavy")) parcels = (.ok 2, parcels) :=
  ⟨rfl, rfl⟩

end Examples

end Vocabulary

end Sift
