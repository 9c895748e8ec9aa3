import Sift.Proofs.SentQueries
import Sift.Search.Result

/-!
# Results that are sent

A result of a search is sent as a text and read again. It comes back as it was exactly if a
document can say all that is in it: the figures, the single values, and the keys, the filters and
the ends of the buckets, of the results at every depth. A field that may be absent cannot say null
either, since null is read as nothing.

## Main definitions

* `Sift.Statistics.Expressible`, `Sift.Bucket.Expressible`, `Sift.AggregationResult.Expressible`:
  what a document can say, apart from the results inside buckets.
* `Sift.AggregationResult.Within`: the results at every depth.
* `Sift.SearchResult.Survives`: search results that come back as they were.

## Main results

* `Sift.Statistics.survives_iff`: figures.
* `Sift.AggregationResult.survives_iff`: results of aggregations, to every depth.
* `Sift.SearchResult.survives_iff`: search results.
-/

set_option autoImplicit false

namespace Sift

open Json (Survives)

/-! ## Figures -/

namespace Statistics

/-- A document can say the figures: they are finite, and the count has 64 bits. -/
structure Expressible (s : Statistics) : Prop where
  /-- The count has 64 bits. -/
  count : s.count < UInt64.size
  /-- The sum is finite. -/
  sum : s.sum.isFinite = true
  /-- The least number is finite. -/
  min : ∀ x ∈ s.min, x.isFinite = true
  /-- The greatest number is finite. -/
  max : ∀ x ∈ s.max, x.isFinite = true
  /-- The average is finite. -/
  avg : ∀ x ∈ s.avg, x.isFinite = true

/-- When an object is read as statistics. -/
lemma ofJson?_obj_iff {t : Table Json} {s : Statistics} :
    ofJson? (.obj t) = some s ↔
      Json.required "count" Json.nat? t = some s.count ∧
        Json.required "sum" Json.double? t = some s.sum ∧
        Json.optional "min" Json.double? t = some s.min ∧
        Json.optional "max" Json.double? t = some s.max ∧
        Json.optional "avg" Json.double? t = some s.avg := by
  rw [ofJson?, Json.fields?, Option.bind_some]
  constructor
  · intro h
    split at h
    · rename_i hcount hsum hmin hmax havg
      obtain rfl := Option.some.inj h
      exact ⟨hcount, hsum, hmin, hmax, havg⟩
    · cases h
  · rintro ⟨hcount, hsum, hmin, hmax, havg⟩
    rw [hcount, hsum, hmin, hmax, havg]

/-- **Figures survive** exactly if they are finite. -/
theorem survives_iff (s : Statistics) : Survives ofJson? toJson s ↔ s.Expressible := by
  have hrecord : s.toJson = .record (s.entries.map fun e => (e.1, some e.2)) := rfl
  have hnumber (o : Option Double) (key : String) :=
    Json.arrives_ofOption (fun _ => Json.present_double_iff) o key
  refine Json.survives_record_iff hrecord (by simp [entries]) ?_
  refine ((Json.arrives_required Json.survives_nat_iff "count").cons
    ((Json.arrives_required Json.survives_double_iff "sum").cons ((hnumber s.min "min").cons
      ((hnumber s.max "max").cons (hnumber s.avg "avg"))))).congr
        (fun t => ofJson?_obj_iff.symm) ⟨?_, fun h => ⟨h.count, h.sum, h.min, h.max, h.avg⟩⟩
  exact fun ⟨hcount, hsum, hmin, hmax, havg⟩ => ⟨hcount, hsum, hmin, hmax, havg⟩

end Statistics

/-! ## Results of aggregations -/

/-- A document can say the bucket, the results in it apart. -/
structure Bucket.Expressible (b : Bucket) : Prop where
  /-- The key can be said. -/
  key : b.key.Expressible
  /-- The count has 64 bits. -/
  count : b.count < UInt64.size
  /-- The figures can be said. -/
  stats : ∀ s ∈ b.stats, s.Expressible
  /-- The names of the results ascend. -/
  sorted : Table.Sorted b.aggs
  /-- The filter can be said. -/
  query : ∀ q ∈ b.query, q.Expressible
  /-- The lower end can be said, and is not null. -/
  lower : ∀ v ∈ b.lower, v ≠ .null ∧ v.Expressible
  /-- The upper end can be said, and is not null. -/
  upper : ∀ v ∈ b.upper, v ≠ .null ∧ v.Expressible

/-- A document can say the result, the results inside its buckets apart. -/
structure AggregationResult.Expressible (r : AggregationResult) : Prop where
  /-- The figures can be said. -/
  stats : ∀ s ∈ r.stats, s.Expressible
  /-- The single value can be said, and is not null. -/
  value : ∀ v ∈ r.value, v ≠ .null ∧ v.Expressible
  /-- The buckets can be said. -/
  buckets : ∀ bs ∈ r.buckets, ∀ b ∈ bs, b.Expressible

/-- A list of buckets is written one by one. -/
lemma Bucket.toJsonList_eq_map (bs : List Bucket) : toJsonList bs = bs.map toJson := by
  induction bs with
  | nil => rfl
  | cons b rest ih => rw [toJsonList, ih, List.map_cons]

/-- A list of buckets is read one by one. -/
lemma Bucket.ofJsonList?_eq_readAll (xs : List Json) :
    ofJsonList? xs = Json.readAll ofJson? xs := by
  induction xs with
  | nil => rfl
  | cons x rest ih =>
    rw [ofJsonList?, Json.readAll, ih]
    cases ofJson? x <;> cases Json.readAll ofJson? rest <;> rfl

namespace AggregationResult

/-- A table of results is written entry by entry. -/
lemma toJsonTable_eq_mapValues (t : Table AggregationResult) :
    toJsonTable t = Table.mapValues toJson t := by
  induction t with
  | nil => rfl
  | cons e rest ih =>
    rw [toJsonTable, ih]
    rfl

/-- The members of a table of results are read one by one. -/
lemma ofMembers?_eq_readValues (members : Table Json) :
    ofMembers? members = Json.readValues ofJson? members := by
  induction members with
  | nil => rfl
  | cons e rest ih =>
    rw [ofMembers?, Json.readValues, ih]
    cases ofJson? e.2 <;> cases Json.readValues ofJson? rest <;> rfl

/-- A table of results is read like any other table. -/
lemma table?_eq (x : Json) : table? x = Json.table? ofJson? x := by
  cases x with
  | obj members => rw [table?, ofMembers?_eq_readValues, Json.table?]
  | _ => rfl

/-- The buckets of a result are a field that may be absent. -/
lemma inner?_eq_optional (members : Table Json) :
    inner? members = Json.optional "buckets" (Json.list? Bucket.ofJson?) members := by
  induction members with
  | nil => rfl
  | cons e rest ih =>
    obtain ⟨k, x⟩ := e
    rw [inner?, ih, Json.optional, Json.optional, Table.find?]
    split
    · cases x with
      | arr items =>
        rw [Bucket.list?, Bucket.ofJsonList?_eq_readAll]
        show _ = (Json.readAll Bucket.ofJson? items).map some
        cases Json.readAll Bucket.ofJson? items <;> rfl
      | _ => rfl
    · rfl

/-- When an object is read as a result. -/
lemma ofJson?_obj_iff {t : Table Json} {r : AggregationResult} :
    ofJson? (.obj t) = some r ↔
      Json.required "key" Json.text? t = some r.key ∧
        Json.optional "buckets" (Json.list? Bucket.ofJson?) t = some r.buckets ∧
        Json.optional "stats" Statistics.ofJson? t = some r.stats ∧
        Json.optional "value" Bucket.value? t = some r.value ∧
        Json.optional "field" Json.text? t = some r.field := by
  rw [ofJson?, inner?_eq_optional]
  unfold assemble?
  constructor
  · intro h
    split at h
    · rename_i hkey hbuckets hstats hvalue hfield
      obtain rfl := Option.some.inj h
      exact ⟨hkey, hbuckets, hstats, hvalue, hfield⟩
    · cases h
  · rintro ⟨hkey, hbuckets, hstats, hvalue, hfield⟩
    rw [hkey, hbuckets, hstats, hvalue, hfield]
    cases r
    rfl

/-- The entries of the record of a result. -/
def entries (r : AggregationResult) : List (String × Option Json) :=
  [("key", some (.str r.key)), ("buckets", r.buckets.map fun bs => .arr (bs.map Bucket.toJson)),
    ("stats", r.stats.map Statistics.toJson), ("value", r.value.map Value.toJson),
    ("field", r.field.map .str)]

/-- A result is written as the record of its entries. -/
lemma toJson_eq_record (r : AggregationResult) : r.toJson = .record r.entries := by
  obtain ⟨key, buckets, stats, value, field⟩ := r
  cases buckets with
  | none => rw [toJson, entries, Option.map_none]
  | some bs => rw [toJson, entries, Option.map_some, Bucket.toJsonList_eq_map]

/-- One level of a result survives if its buckets do and a document can say the rest. -/
lemma survives_iff_buckets (r : AggregationResult) :
    Survives ofJson? toJson r ↔ (∀ s ∈ r.stats, s.Expressible) ∧
      (∀ v ∈ r.value, v ≠ .null ∧ v.Expressible) ∧
        ∀ bs ∈ r.buckets, ∀ b ∈ bs, Survives Bucket.ofJson? Bucket.toJson b := by
  refine Json.survives_record_iff r.toJson_eq_record (by simp [entries]) ?_
  refine ((Json.arrives_required (Json.survives_text_iff r.key) "key").cons
    ((Json.arrives_optional_of_ne_null (fun _ => Json.survives_list_iff) nofun r.buckets
      "buckets").cons
    ((Json.arrives_optional_of_ne_null Statistics.survives_iff nofun r.stats "stats").cons
    ((Json.arrives_optional Value.survives_present_iff r.value "value").cons
    (Json.arrives_optional_of_ne_null Json.survives_text_iff nofun r.field "field"))))).congr
      (fun t => ofJson?_obj_iff.symm) ⟨?_, ?_⟩
  · rintro ⟨-, hbuckets, hstats, hvalue, -⟩
    exact ⟨hstats, hvalue, hbuckets⟩
  · rintro ⟨hstats, hvalue, hbuckets⟩
    exact ⟨trivial, hbuckets, hstats, hvalue, fun _ _ => trivial⟩

end AggregationResult

namespace Bucket

/-- The results in a bucket are a field that may be left out. -/
lemma inner?_eq_defaulted (members : Table Json) :
    inner? members =
      Json.defaulted "aggs" [] (Json.table? AggregationResult.ofJson?) members := by
  induction members with
  | nil => rfl
  | cons e rest ih =>
    obtain ⟨k, x⟩ := e
    rw [inner?, ih, AggregationResult.table?_eq, Json.defaulted, Json.defaulted, Table.find?]
    split <;> rfl

/-- When an object is read as a bucket. -/
lemma ofJson?_obj_iff {t : Table Json} {b : Bucket} :
    ofJson? (.obj t) = some b ↔
      Json.required "key" value? t = some b.key ∧
        Json.required "count" Json.nat? t = some b.count ∧
        Json.optional "stats" Statistics.ofJson? t = some b.stats ∧
        Json.defaulted "aggs" [] (Json.table? AggregationResult.ofJson?) t = some b.aggs ∧
        Json.optional "query" (Query.ofJson? false) t = some b.query ∧
        Json.optional "from" value? t = some b.lower ∧
        Json.optional "to" value? t = some b.upper := by
  rw [ofJson?, inner?_eq_defaulted]
  unfold assemble?
  constructor
  · intro h
    split at h
    · rename_i hkey hcount hstats haggs hquery hlower hupper
      obtain rfl := Option.some.inj h
      exact ⟨hkey, hcount, hstats, haggs, hquery, hlower, hupper⟩
    · cases h
  · rintro ⟨hkey, hcount, hstats, haggs, hquery, hlower, hupper⟩
    rw [hkey, hcount, hstats, haggs, hquery, hlower, hupper]
    cases b
    rfl

/-- The entries of the record of a bucket. -/
def entries (b : Bucket) : List (String × Option Json) :=
  [("key", some b.key.toJson), ("count", some (.int b.count)),
    ("stats", b.stats.map Statistics.toJson),
    ("aggs", if b.aggs.isEmpty then none
      else some (.obj (Table.mapValues AggregationResult.toJson b.aggs))),
    ("query", b.query.map Query.toJson), ("from", b.lower.map Value.toJson),
    ("to", b.upper.map Value.toJson)]

/-- A bucket is written as the record of its entries. -/
lemma toJson_eq_record (b : Bucket) : b.toJson = .record b.entries := by
  obtain ⟨key, count, stats, aggs, query, lower, upper⟩ := b
  rw [toJson, entries, AggregationResult.toJsonTable_eq_mapValues]

/-- No query is written as null. -/
lemma query_toJson_ne_null (q : Query) : q.toJson.sent ≠ .null := by
  rw [q.toJson_eq_record, Json.sent_record]
  nofun

/-- A bucket survives if the results in it do and a document can say the rest. -/
lemma survives_iff_results (b : Bucket) :
    Survives ofJson? toJson b ↔ b.Expressible ∧
      ∀ e ∈ b.aggs, Survives AggregationResult.ofJson? AggregationResult.toJson e.2 := by
  have hvalue (o : Option Value) (key : String) :=
    Json.arrives_optional Value.survives_present_iff o key
  refine Json.survives_record_iff b.toJson_eq_record (by simp [entries]) ?_
  refine ((Json.arrives_required b.key.survives_iff "key").cons
    ((Json.arrives_required Json.survives_nat_iff "count").cons
    ((Json.arrives_optional_of_ne_null Statistics.survives_iff nofun b.stats "stats").cons
    ((Json.arrives_nonemptyTable AggregationResult.ofJson? AggregationResult.toJson b.aggs
      "aggs").cons
    ((Json.arrives_optional_of_ne_null (fun q => q.survives_iff false) query_toJson_ne_null b.query
      "query").cons
    ((hvalue b.lower "from").cons (hvalue b.upper "to"))))))).congr
      (fun t => ofJson?_obj_iff.symm) ⟨?_, ?_⟩
  · rintro ⟨hkey, hcount, hstats, ⟨hsorted, hresults⟩, hquery, hlower, hupper⟩
    exact ⟨⟨hkey, hcount, hstats, hsorted, hquery, hlower, hupper⟩, hresults⟩
  · rintro ⟨h, hresults⟩
    exact ⟨h.key, h.count, h.stats, ⟨h.sorted, hresults⟩, h.query, h.lower, h.upper⟩

end Bucket

/-! ## Every depth -/

namespace AggregationResult

/-- The results at every depth of a result: the result itself, and what is within the results in
its buckets. -/
inductive Within (x : AggregationResult) : AggregationResult → Prop where
  /-- The result itself. -/
  | here : Within x x
  /-- A result within one of the results of a bucket. -/
  | inside {r : AggregationResult} {bs : List Bucket} {b : Bucket}
      {e : String × AggregationResult} (hbs : r.buckets = some bs) (hb : b ∈ bs) (he : e ∈ b.aggs)
      (h : Within x e.2) : Within x r

/-- An induction over results that covers the results in all buckets at once. -/
@[elab_as_elim]
lemma induction {motive : AggregationResult → Prop}
    (step : ∀ r : AggregationResult,
      (∀ bs, r.buckets = some bs → ∀ b ∈ bs, ∀ e ∈ b.aggs, motive e.2) → motive r)
    (r : AggregationResult) : motive r :=
  @AggregationResult.rec (fun b => ∀ e ∈ b.aggs, motive e.2) motive (fun t => ∀ e ∈ t, motive e.2)
    (fun buckets => ∀ bs, buckets = some bs → ∀ b ∈ bs, ∀ e ∈ b.aggs, motive e.2)
    (fun e => motive e.2) (fun bs => ∀ b ∈ bs, ∀ e ∈ b.aggs, motive e.2)
    (fun _ _ _ _ _ _ _ h => h)
    (fun key buckets stats value field h => step ⟨key, buckets, stats, value, field⟩ h)
    (fun _ h => absurd h List.not_mem_nil)
    (fun _ _ he hrest => List.forall_mem_cons.2 ⟨he, hrest⟩)
    nofun (fun _ h _ hbs => Option.some.inj hbs ▸ h) (fun _ _ h => h)
    (fun _ h => absurd h List.not_mem_nil)
    (fun _ _ hb hrest => List.forall_mem_cons.2 ⟨hb, hrest⟩) r

/-- **Results of aggregations survive** exactly if a document can say them at every depth. -/
theorem survives_iff (r : AggregationResult) :
    Survives ofJson? toJson r ↔ ∀ x, Within x r → x.Expressible := by
  induction r using AggregationResult.induction with
  | step r ih =>
  rw [survives_iff_buckets]
  constructor
  · rintro ⟨hstats, hvalue, hbuckets⟩ x hx
    cases hx with
    | here =>
      exact ⟨hstats, hvalue, fun bs hbs b hb => ((Bucket.survives_iff_results b).1
        (hbuckets bs hbs b hb)).1⟩
    | @inside _ bs b e hbs hb he h =>
      have hsurvives := ((Bucket.survives_iff_results b).1 (hbuckets bs hbs b hb)).2 e he
      exact (ih bs hbs b hb e he).1 hsurvives x h
  · intro h
    have hself : r.Expressible := h r .here
    refine ⟨hself.stats, hself.value, fun bs hbs b hb => ?_⟩
    refine (Bucket.survives_iff_results b).2 ⟨hself.buckets bs hbs b hb, fun e he => ?_⟩
    exact (ih bs hbs b hb e he).2 fun x hx => h x (.inside hbs hb he hx)

end AggregationResult

/-! ## Search results -/

namespace SearchResult

/-- A search result that comes back as it was when it is sent. -/
def Survives (r : SearchResult Json) : Prop := Json.Survives (ofJson? some) (toJson id) r

/-- When an object is read as the answer to a search. -/
lemma ofJson?_obj_iff {t : Table Json} {r : SearchResult Json} :
    ofJson? some (.obj t) = some r ↔
      Json.defaulted "aggs" [] (Json.table? AggregationResult.ofJson?) t = some r.aggs ∧
        Json.optional "items" (Json.list? some) t = some r.items ∧
        Json.optional "rows" (Json.list? (Json.list? Bucket.value?)) t = some r.rows ∧
        Json.required "total_items" Json.nat? t = some r.totalItems ∧
        Json.defaulted "fields" [] (Json.list? Field.ofJson?) t = some r.fields := by
  rw [ofJson?, Json.fields?, Option.bind_some]
  constructor
  · intro h
    split at h
    · rename_i haggs hitems hrows htotal hfields
      obtain rfl := Option.some.inj h
      exact ⟨haggs, hitems, hrows, htotal, hfields⟩
    · cases h
  · rintro ⟨haggs, hitems, hrows, htotal, hfields⟩
    rw [haggs, hitems, hrows, htotal, hfields]

/-- **Search results survive** exactly if everything in them does. -/
theorem survives_iff (r : SearchResult Json) :
    r.Survives ↔
      (Table.Sorted r.aggs ∧
          ∀ e ∈ r.aggs, Json.Survives AggregationResult.ofJson? AggregationResult.toJson e.2) ∧
        (∀ items ∈ r.items, ∀ x ∈ items, Json.Survives some id x) ∧
        (∀ rows ∈ r.rows, ∀ row ∈ rows, ∀ v ∈ row, v.Expressible) ∧
        r.totalItems < UInt64.size ∧
        ∀ f ∈ r.fields, Json.Survives Field.ofJson? Field.toJson f := by
  have hrecord : r.toJson id = .record [("aggs", some (.obj (Table.mapValues
        AggregationResult.toJson r.aggs))),
      ("items", r.items.map fun items => .arr (items.map id)),
      ("rows", r.rows.map fun rows => .arr (rows.map fun row => .arr (row.map Value.toJson))),
      ("total_items", some (.int r.totalItems)),
      ("fields", some (.arr (r.fields.map Field.toJson)))] := rfl
  have hrow (row : List Value) : Json.Survives (Json.list? Bucket.value?)
      (fun row => .arr (row.map Value.toJson)) row ↔ ∀ v ∈ row, v.Expressible :=
    Json.survives_list_iff.trans (forall₂_congr fun v _ => v.survives_iff)
  have hrows (rows : List (List Value)) : Json.Survives (Json.list? (Json.list? Bucket.value?))
      (fun rows => .arr (rows.map fun row => .arr (row.map Value.toJson))) rows ↔
        ∀ row ∈ rows, ∀ v ∈ row, v.Expressible :=
    Json.survives_list_iff.trans (forall₂_congr fun row _ => hrow row)
  refine Json.survives_record_iff hrecord (by simp) ?_
  exact ((Json.arrives_defaulted Json.survives_table_iff "aggs" []).cons
    ((Json.arrives_optional_of_ne_null (fun _ => Json.survives_list_iff) nofun r.items
      "items").cons
    ((Json.arrives_optional_of_ne_null hrows nofun r.rows "rows").cons
    ((Json.arrives_required Json.survives_nat_iff "total_items").cons
    (Json.arrives_defaulted Json.survives_list_iff "fields" []))))).congr
      (fun t => ofJson?_obj_iff.symm) Iff.rfl

end SearchResult

end Sift
