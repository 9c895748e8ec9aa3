import Mathlib.Order.Compare
import Sift.Proofs.Decoration
import Sift.Proofs.SortOrder

/-!
# Sorted results

The order of result sets is transitive among values of one type, so that a list of sort keys orders
records if the values of each key have one type. Null is no type: it comes last for a key that
descends as for one that ascends. The records of a store come in this order, and those that are tied
in all keys in the order of their identifiers.

## Main definitions

* `Sift.SortType`: the types of values.
* `Sift.SortKey.Exceeds`, `Sift.SortKey.Tied`: the order of two values of a sort key.
* `Sift.SortKey.AllExceeds`: the order of two records.

## Main results

* `Sift.SortKey.transCmp_compareAll`: records are ordered.
* `Sift.Store.search_sorted`: what a store answers to a request with sort keys.
-/

set_option autoImplicit false

namespace Sift

/-- Types of values, with integers of both widths as one type. -/
inductive SortType where
  | integer
  | double
  | text
  | boolean
deriving DecidableEq, Repr

namespace SortType

/-- Whether a value is of a type. -/
def Has : SortType → Value → Prop
  | integer, v => ∃ n, v.integer? = some n
  | double, v => ∃ x, v = .double x
  | text, v => ∃ s, v = .str s
  | boolean, v => ∃ b, v = .bool b

/-- Among values of one type no number merges integers. -/
lemma not_merges {t : SortType} {a b c : Value} (ha : t.Has a) (hb : t.Has b) :
    ¬ b.Merges a c := by
  rintro ⟨-, hinteger, x, -, hx, -⟩
  cases t with
  | integer =>
    obtain ⟨n, hn⟩ := hb
    rw [hinteger] at hn
    cases hn
  | double =>
    obtain ⟨y, rfl⟩ := ha
    cases hx
  | text =>
    obtain ⟨s, rfl⟩ := ha
    cases hx
  | boolean =>
    obtain ⟨b, rfl⟩ := ha
    cases hx

end SortType

namespace SortKey

variable {k : SortKey} {a b c : Value}

/-! ## One sort key -/

/-- A value comes after another one for a sort key: null after every other value, and of other
values the larger one after the smaller one, or the smaller one if the key descends. -/
inductive Exceeds (k : SortKey) : Value → Value → Prop
  | null {b : Value} (value : b ≠ .null) : k.Exceeds .null b
  | larger {a b : Value} (direction : k.direction = .ascending) (value : a ≠ .null)
      (value' : b ≠ .null) (order : a.sortOrder b = .gt) : k.Exceeds a b
  | smaller {a b : Value} (direction : k.direction = .descending) (value : a ≠ .null)
      (value' : b ≠ .null) (order : a.sortOrder b = .lt) : k.Exceeds a b

/-- No value of two comes after the other one: both are null, or neither is and they are equal in
the order. -/
inductive Tied : Value → Value → Prop
  | null : Tied .null .null
  | equal {a b : Value} (value : a ≠ .null) (value' : b ≠ .null) (order : a.sortOrder b = .eq) :
      Tied a b

/-- The test for null is exact. -/
lemma isNull_eq_false_iff {v : Value} : v.isNull = false ↔ v ≠ .null := by
  cases v <;> simp [Value.isNull]

/-- Values other than null are compared in the direction of the key. -/
lemma compareValues_of_ne_null (ha : a ≠ .null) (hb : b ≠ .null) :
    k.compareValues a b = match k.direction with
      | .ascending => a.sortOrder b
      | .descending => b.sortOrder a := by
  rw [compareValues, isNull_eq_false_iff.2 ha, isNull_eq_false_iff.2 hb]
  cases k.direction with
  | ascending => rfl
  | descending => exact (Value.sortOrder_swap a b).symm

/-- Null comes after all other values, in both directions. -/
lemma compareValues_null_left (hb : b ≠ .null) : k.compareValues .null b = .gt := by
  rw [compareValues, isNull_eq_false_iff.2 hb]
  rfl

/-- All other values come before null, in both directions. -/
lemma compareValues_null_right (ha : a ≠ .null) : k.compareValues a .null = .lt := by
  rw [compareValues, isNull_eq_false_iff.2 ha]
  rfl

/-- Values are compared in both directions alike. -/
lemma compareValues_swap (k : SortKey) (a b : Value) :
    k.compareValues a b = (k.compareValues b a).swap := by
  rcases eq_or_ne a .null with rfl | ha <;> rcases eq_or_ne b .null with rfl | hb
  · rfl
  · rw [compareValues_null_left hb, compareValues_null_right hb]
    rfl
  · rw [compareValues_null_left ha, compareValues_null_right ha]
    rfl
  · rw [compareValues_of_ne_null ha hb, compareValues_of_ne_null hb ha]
    cases k.direction
    · exact Value.sortOrder_swap b a
    · exact Value.sortOrder_swap a b

/-- One value comes after another if it exceeds it. -/
lemma compareValues_eq_gt_iff : k.compareValues a b = .gt ↔ k.Exceeds a b := by
  constructor
  · intro h
    rcases eq_or_ne a .null with rfl | ha <;> rcases eq_or_ne b .null with rfl | hb
    · cases h
    · exact .null hb
    · rw [compareValues_null_right ha] at h
      cases h
    · rw [compareValues_of_ne_null ha hb] at h
      split at h
      · exact .larger ‹_› ha hb h
      · exact .smaller ‹_› ha hb (by rw [Value.sortOrder_swap b a, h]; rfl)
  · rintro (hb | ⟨hk, ha, hb, h⟩ | ⟨hk, ha, hb, h⟩)
    · exact compareValues_null_left hb
    · rw [compareValues_of_ne_null ha hb, hk]
      exact h
    · rw [compareValues_of_ne_null ha hb, hk]
      dsimp only
      rw [Value.sortOrder_swap a b, h]
      rfl

/-- Two values are level if they are tied. -/
lemma compareValues_eq_eq_iff : k.compareValues a b = .eq ↔ Tied a b := by
  constructor
  · intro h
    rcases eq_or_ne a .null with rfl | ha <;> rcases eq_or_ne b .null with rfl | hb
    · exact .null
    · rw [compareValues_null_left hb] at h
      cases h
    · rw [compareValues_null_right ha] at h
      cases h
    · rw [compareValues_of_ne_null ha hb] at h
      split at h
      · exact .equal ha hb h
      · exact .equal ha hb (by rw [Value.sortOrder_swap b a, h]; rfl)
  · rintro (_ | ⟨ha, hb, h⟩)
    · rfl
    · rw [compareValues_of_ne_null ha hb, Value.sortOrder_swap a b, h]
      cases k.direction <;> rfl

/-- **One sort key** orders values of one type, and null. -/
theorem compareValues_isLE_trans {t : SortType} (ha : a ≠ .null → t.Has a)
    (hb : b ≠ .null → t.Has b) (hc : c ≠ .null → t.Has c)
    (hab : (k.compareValues a b).isLE) (hbc : (k.compareValues b c).isLE) :
    (k.compareValues a c).isLE := by
  rcases eq_or_ne c .null with rfl | hcn
  · -- Nothing comes after null.
    rcases eq_or_ne a .null with rfl | han
    · rfl
    · rw [compareValues_null_right han]
      rfl
  · rcases eq_or_ne b .null with rfl | hbn
    · rw [compareValues_null_left hcn] at hbc
      cases hbc
    · rcases eq_or_ne a .null with rfl | han
      · rw [compareValues_null_left hbn] at hab
        cases hab
      · rw [← Ordering.ne_gt_iff_isLE, compareValues_of_ne_null han hbn] at hab
        rw [← Ordering.ne_gt_iff_isLE, compareValues_of_ne_null hbn hcn] at hbc
        rw [← Ordering.ne_gt_iff_isLE, compareValues_of_ne_null han hcn]
        cases hk : k.direction with
        | ascending =>
          rw [hk] at hab hbc
          exact Value.sortOrder_trans (SortType.not_merges (ha han) (hb hbn)) hab hbc
        | descending =>
          rw [hk] at hab hbc
          exact Value.sortOrder_trans (SortType.not_merges (hc hcn) (hb hbn)) hbc hab

/-! ## All sort keys -/

variable {R : Type} {E : Evaluator R} {sorts : List SortKey} {r r' : R}

/-- A record comes after another one: its value of some sort key does, and the values of all keys
before are tied. -/
inductive AllExceeds (E : Evaluator R) : List SortKey → R → R → Prop
  | first {k : SortKey} {rest : List SortKey} {r r' : R}
      (exceeds : k.Exceeds (E.extractValue r k.field) (E.extractValue r' k.field)) :
      AllExceeds E (k :: rest) r r'
  | later {k : SortKey} {rest : List SortKey} {r r' : R}
      (tied : Tied (E.extractValue r k.field) (E.extractValue r' k.field))
      (exceeds : AllExceeds E rest r r') : AllExceeds E (k :: rest) r r'

/-- The values of all sort keys are tied. -/
def AllTied (E : Evaluator R) (sorts : List SortKey) (r r' : R) : Prop :=
  ∀ k ∈ sorts, Tied (E.extractValue r k.field) (E.extractValue r' k.field)

/-- Records are compared by the first key, and then by the others. -/
lemma compareRecords_cons {k : SortKey} : compareRecords E (k :: sorts) r r' =
    (k.compareValues (E.extractValue r k.field) (E.extractValue r' k.field)).then
      (compareRecords E sorts r r') := rfl

/-- One record comes after another if it exceeds it. -/
lemma compareRecords_eq_gt_iff :
    compareRecords E sorts r r' = .gt ↔ AllExceeds E sorts r r' := by
  induction sorts with
  | nil => exact iff_of_false nofun nofun
  | cons k rest ih =>
    rw [compareRecords_cons, Ordering.then_eq_gt, compareValues_eq_gt_iff, compareValues_eq_eq_iff,
      ih]
    constructor
    · rintro (h | ⟨htied, h⟩)
      · exact .first h
      · exact .later htied h
    · rintro (h | ⟨htied, h⟩)
      · exact .inl h
      · exact .inr ⟨htied, h⟩

/-- Two records are level if they are tied by all keys. -/
lemma compareRecords_eq_eq_iff :
    compareRecords E sorts r r' = .eq ↔ AllTied E sorts r r' := by
  induction sorts with
  | nil => exact iff_of_true rfl nofun
  | cons k rest ih =>
    rw [compareRecords_cons, Ordering.then_eq_eq, compareValues_eq_eq_iff, ih, AllTied, AllTied,
      List.forall_mem_cons]

/-- **All sort keys** order records, if the values of each key have one type.

**Proof sketch.** The first key orders the records, since its values have one type, and the order of
the other keys decides among the records that are tied. -/
theorem transCmp_compareRecords {ι : Type} {record : ι → R}
    (htypes : ∀ k ∈ sorts, ∃ t : SortType, ∀ i,
      E.extractValue (record i) k.field ≠ .null → t.Has (E.extractValue (record i) k.field)) :
    Std.TransCmp fun i j => compareRecords E sorts (record i) (record j) := by
  induction sorts with
  | nil => exact { eq_swap := rfl, isLE_trans := fun _ _ => rfl }
  | cons k rest ih =>
    have hrest := ih fun k' hk' => htypes k' (List.mem_cons_of_mem k hk')
    obtain ⟨t, ht⟩ := htypes k List.mem_cons_self
    let first (i j : ι) : Ordering :=
      k.compareValues (E.extractValue (record i) k.field) (E.extractValue (record j) k.field)
    have hfirst : Std.TransCmp first :=
      { eq_swap := compareValues_swap k _ _
        isLE_trans := compareValues_isLE_trans (ht _) (ht _) (ht _) }
    exact inferInstanceAs (Std.TransCmp (compareLex first
      fun i j => compareRecords E rest (record i) (record j)))

end SortKey

namespace Store

open SortKey

section Searches

variable {R : Type} {E : Evaluator R} {sorts : List SortKey}

/-- The order of two entries: that of their records, and of tied ones that of their identifiers. -/
def compareEntries (E : Evaluator R) (sorts : List SortKey) (e e' : String × R) : Ordering :=
  (compareRecords E sorts e.2 e'.2).then (compare e.1 e'.1)

/-- Records that are level are in the order of their ids. -/
lemma compareEntries_eq_lt_iff {e e' : String × R} : compareEntries E sorts e e' = .lt ↔
    compareRecords E sorts e.2 e'.2 = .lt ∨
      compareRecords E sorts e.2 e'.2 = .eq ∧ e.1 < e'.1 := by
  rw [compareEntries, Ordering.then_eq_lt]
  exact or_congr_right (and_congr_right fun _ => compareOfLessAndEq_eq_lt)

/-- **The order of entries.** Sorting entries by their records, if they are in the order of their
identifiers, puts each entry before all that it is less than. -/
theorem pairwise_sort_entries {entries : List (String × R)}
    (hascending : entries.Pairwise fun e e' => e.1 < e'.1)
    (htypes : ∀ k ∈ sorts, ∃ t : SortType, ∀ e ∈ entries,
      E.extractValue e.2 k.field ≠ .null → t.Has (E.extractValue e.2 k.field)) :
    (Sorting.sort (fun e e' => compareRecords E sorts e.2 e'.2) entries).Pairwise fun e e' =>
      compareEntries E sorts e e' = .lt := by
  have hrecords : Std.TransCmp fun e e' : { e // e ∈ entries } =>
      compareRecords E sorts e.1.2 e'.1.2 := by
    refine transCmp_compareRecords fun k hk => ?_
    obtain ⟨t, ht⟩ := htypes k hk
    exact ⟨t, fun e => ht e.1 e.2⟩
  have hentries : Std.TransCmp fun e e' : { e // e ∈ entries } => compareEntries E sorts e.1 e'.1 :=
    inferInstanceAs (Std.TransCmp (compareLex
      (fun e e' : { e // e ∈ entries } => compareRecords E sorts e.1.2 e'.1.2)
      (compareOn fun e : { e // e ∈ entries } => e.1.1)))
  refine Sorting.pairwise_sort hascending ?_ ?_ ?_
  · exact fun x hx y hy z hz =>
      @Std.TransCmp.lt_trans _ _ hentries ⟨x, hx⟩ ⟨y, hy⟩ ⟨z, hz⟩
  · exact fun x _ y _ hlt => compareEntries_eq_lt_iff.2 (.inl hlt)
  · intro x hx y hy hlt hid
    have hswap : compareRecords E sorts y.2 x.2 = (compareRecords E sorts x.2 y.2).swap :=
      @Std.OrientedCmp.eq_swap _ _ hrecords.toOrientedCmp ⟨y, hy⟩ ⟨x, hx⟩
    rw [compareEntries_eq_lt_iff, hswap]
    cases hxy : compareRecords E sorts x.2 y.2 with
    | lt => exact absurd hxy hlt
    | eq => exact .inr ⟨rfl, hid⟩
    | gt => exact .inl rfl

variable [Environment] {now : Instant}

/-- **Sorted results.** Let the query of a request select records and its aggregations have results
for them, and let the values of each sort key have one type among these records. The store answers
with a page of them. Before the page is cut, no record comes after a later one in the order of the
sort keys, and records that are tied in all keys are in the order of their identifiers.

**Proof sketch.** The comparison by all keys, and by identifiers after them, is transitive on the
selected records, so that the order is not refused. Since these are in the order of their
identifiers before they are sorted, and the sort is stable, each record is less than all later ones
in this comparison. -/
theorem search_sorted {s : Store R} {r : SearchRequest} {p : R → Except Error Bool}
    {ms : List R} {aggs : Table AggregationResult}
    (hp : (r.query.getD .matchAll).compile E now = .ok p)
    (hms : Query.select p s.records = .ok ms)
    (haggs : Aggregation.computeAll E now r.aggs ms = .ok aggs)
    (htypes : ∀ k ∈ r.sorts, ∃ t : SortType, ∀ x ∈ ms,
      E.extractValue x k.field ≠ .null → t.Has (E.extractValue x k.field)) :
    ∃ entries : List (String × R),
      entries.Perm (s.entries.filter fun e => Query.Selects p e.2) ∧
      (entries.Pairwise fun e e' =>
        ¬ AllExceeds E r.sorts e.2 e'.2 ∧ (AllTied E r.sorts e.2 e'.2 → e.1 < e'.1)) ∧
      s.search E now r = .ok
        { aggs := aggs
          items := if r.fields.isEmpty then some (r.page (entries.map Prod.snd)) else none
          rows := if r.fields.isEmpty then none
            else some ((r.page (entries.map Prod.snd)).map (SearchRequest.row E r.fields))
          totalItems := entries.length
          fields := r.fields } := by
  let order : String × R → String × R → Ordering := fun e e' => compareRecords E r.sorts e.2 e'.2
  have hselected : ms = (s.entries.filter fun e => Query.Selects p e.2).map Prod.snd := by
    obtain ⟨-, rfl⟩ := Query.select_eq_ok_iff.1 hms
    rw [records, List.filter_map]
    rfl
  have hascending := s.sorted.filter fun e => Query.Selects p e.2
  have hperm := Sorting.sort_perm order (s.entries.filter fun e => Query.Selects p e.2)
  have hbefore : (Sorting.sort order (s.entries.filter fun e => Query.Selects p e.2)).Pairwise
      fun e e' => compareEntries E r.sorts e e' = .lt := by
    refine pairwise_sort_entries hascending fun k hk => ?_
    obtain ⟨t, ht⟩ := htypes k hk
    exact ⟨t, fun e he => ht e.2 (hselected ▸ List.mem_map_of_mem he)⟩
  refine ⟨Sorting.sort order (s.entries.filter fun e => Query.Selects p e.2), hperm, ?_, ?_⟩
  · refine hbefore.imp fun {e e'} h => ?_
    rw [← compareRecords_eq_gt_iff, ← compareRecords_eq_eq_iff]
    rcases compareEntries_eq_lt_iff.1 h with hlt | ⟨heq, hid⟩
    · rw [hlt]
      exact ⟨nofun, nofun⟩
    · rw [heq]
      exact ⟨nofun, fun _ => hid⟩
  · have hconsistent : Sorting.Consistent (compareRecords E r.sorts) ms := by
      refine .of_transCmp (transCmp_compareRecords fun k hk => ?_)
      obtain ⟨t, ht⟩ := htypes k hk
      exact ⟨t, fun x => ht x.1 x.2⟩
    have hsorted : SearchRequest.sorted E r.sorts ms =
        .ok ((Sorting.sort order
          (s.entries.filter fun e => Query.Selects p e.2)).map Prod.snd) := by
      rw [SearchRequest.sorted_of_sortable (.inr hconsistent), hselected]
      exact congrArg Except.ok (Sorting.map_sort Prod.snd _ _).symm
    rw [search_eq_ok_iff.2 ⟨ms, aggs, _, matching_eq_ok_iff.2 ⟨p, hp, hms⟩, haggs, hsorted, rfl⟩,
      resultOf, List.length_map]

end Searches

/-! ## Residents of cities -/

/-- Residents by their names, with the city of those who have one. -/
def residents : Store (String × Option String) :=
  Store.ofList [("1", ("ann", some "oslo")), ("2", ("bob", none)), ("3", ("cid", some "bergen")),
    ("4", ("dee", some "oslo"))]

/-- The city of a resident, and the name at every other path. -/
def residentAt : Evaluator (String × Option String) := fun resident path =>
  .ok (if path = "city" then resident.2.elim .null .str else .str resident.1)

/-- All residents, by their cities from the last one and by their names. -/
def byCity : SearchRequest where
  sorts := [{ field := "city", direction := .descending }, { field := "name" }]

section Examples

attribute [local instance] Environment.isolated

/-- Residents are answered in the order of both keys. -/
theorem search_residents_sorted :
    ∃ entries : List (String × (String × Option String)),
      entries.Perm (residents.entries.filter fun e => Query.Selects (fun _ => .ok true) e.2) ∧
      (entries.Pairwise fun e e' =>
        ¬ AllExceeds residentAt byCity.sorts e.2 e'.2 ∧
          (AllTied residentAt byCity.sorts e.2 e'.2 → e.1 < e'.1)) ∧
      residents.search residentAt Instant.earliest byCity = .ok
        { aggs := []
          items := if byCity.fields.isEmpty then some (byCity.page (entries.map Prod.snd)) else none
          rows := if byCity.fields.isEmpty then none
            else some ((byCity.page (entries.map Prod.snd)).map
              (SearchRequest.row residentAt byCity.fields))
          totalItems := entries.length
          fields := byCity.fields } := by
  refine search_sorted (p := fun _ => .ok true) rfl (Query.select_true residents.records) rfl
    fun k _ => ⟨.text, fun x _ => ?_⟩
  obtain ⟨name, city⟩ := x
  show (if k.field = "city" then city.elim .null .str else .str name) ≠ Value.null →
    ∃ text, (if k.field = "city" then city.elim .null .str else .str name) = Value.str text
  split
  · cases city with
    | none => exact fun hnull => absurd rfl hnull
    | some city => exact fun _ => ⟨city, rfl⟩
  · exact fun _ => ⟨name, rfl⟩

/-- Those without a city come last, although the cities descend. -/
example : (residents.search residentAt Instant.earliest byCity).map
    (fun result => result.itemsOrEmpty.map Prod.fst) = .ok ["ann", "dee", "cid", "bob"] := rfl

end Examples

end Store

end Sift
