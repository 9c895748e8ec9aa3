import Sift.Proofs.Nesting

/-!
# Renaming fields and computing aggregations

An aggregation with other fields finds the same records as the aggregation itself under an
evaluator that looks up other paths. Its result differs in one place only: the buckets of filters
show the filters that were computed, at every depth.

## Main definitions

* `Sift.Bucket.mapQueries`, `Sift.AggregationResult.mapQueries`: a result with another form of the
  filters that it shows.

## Main results

* `Sift.AggregationKind.find_rename`: the groups of a kind with other fields.
* `Sift.Aggregation.compute_rename`, `Sift.Aggregation.computeAll_rename`: the results of
  aggregations with other fields.
-/

set_option autoImplicit false

namespace Sift

/-! ## Results with other filters -/

mutual

/-- The bucket with another form of its filter, and of the filters in it. -/
def Bucket.mapQueries (f : Query → Query) : Bucket → Bucket
  | ⟨key, count, stats, aggs, query, lower, upper⟩ =>
    ⟨key, count, stats, AggregationResult.mapQueriesTable f aggs, query.map f, lower, upper⟩

/-- Several buckets with another form of their filters. -/
def Bucket.mapQueriesList (f : Query → Query) : List Bucket → List Bucket
  | [] => []
  | b :: rest => b.mapQueries f :: Bucket.mapQueriesList f rest

/-- The result with another form of the filters of its buckets, at every depth. -/
def AggregationResult.mapQueries (f : Query → Query) : AggregationResult → AggregationResult
  | ⟨key, some buckets, stats, value, field⟩ =>
    ⟨key, some (Bucket.mapQueriesList f buckets), stats, value, field⟩
  | ⟨key, none, stats, value, field⟩ => ⟨key, none, stats, value, field⟩

/-- The results of a table with another form of the filters. -/
def AggregationResult.mapQueriesTable (f : Query → Query) :
    List (String × AggregationResult) → List (String × AggregationResult)
  | [] => []
  | (k, r) :: rest => (k, r.mapQueries f) :: AggregationResult.mapQueriesTable f rest

end

/-- The queries of buckets are replaced one by one. -/
lemma Bucket.mapQueriesList_eq_map (f : Query → Query) (bs : List Bucket) :
    Bucket.mapQueriesList f bs = bs.map (Bucket.mapQueries f) := by
  induction bs with
  | nil => rfl
  | cons b rest ih => rw [mapQueriesList, ih, List.map_cons]

namespace AggregationResult

/-- The queries of a table are replaced entry by entry. -/
lemma mapQueriesTable_eq_mapValues (f : Query → Query) (t : Table AggregationResult) :
    mapQueriesTable f t = Table.mapValues (mapQueries f) t := by
  induction t with
  | nil => rfl
  | cons e rest ih =>
    obtain ⟨k, r⟩ := e
    rw [mapQueriesTable, ih]
    rfl

/-- Other queries do not change the key of a result. -/
@[simp] lemma mapQueries_key (f : Query → Query) (r : AggregationResult) :
    (r.mapQueries f).key = r.key := by
  obtain ⟨key, buckets, stats, value, field⟩ := r
  cases buckets <;> rfl

/-- Queries can be replaced before or after results are put into a table. -/
lemma tabulate_mapQueries (f : Query → Query) (results : List AggregationResult) :
    tabulate (results.map (mapQueries f)) = Table.mapValues (mapQueries f) (tabulate results) := by
  rw [tabulate, tabulate, ← Table.ofList_mapValues, List.map_map, List.map_map]
  congr 1
  refine List.map_congr_left fun r _ => ?_
  show ((r.mapQueries f).key, r.mapQueries f) = (r.key, r.mapQueries f)
  rw [mapQueries_key]

end AggregationResult

/-! ## Groups with other filters -/

namespace Group

variable {R : Type}

/-- The group with another form of its filter. -/
def mapQuery (f : Query → Query) (g : Group R) : Group R := { g with query := g.query.map f }

/-- A group without a query stays as it is. -/
lemma mapQuery_of_none {f : Query → Query} {g : Group R} (h : g.query = none) :
    g.mapQuery f = g := by
  rw [mapQuery, h, Option.map_none, ← h]

/-- Queries can be replaced before or after a group becomes a bucket. -/
lemma bucket_mapQuery (f : Query → Query) (g : Group R) (results : List AggregationResult) :
    (g.mapQuery f).bucket (results.map (AggregationResult.mapQueries f)) =
      (g.bucket results).mapQueries f := by
  rw [bucket, bucket, Bucket.mapQueries, AggregationResult.tabulate_mapQueries,
    AggregationResult.mapQueriesTable_eq_mapValues]
  rfl

/-- Which groups are kept does not depend on their filters. -/
lemma kept_mapQuery (f : Query → Query) (least limit : Option Nat) (gs : List (Group R)) :
    kept least limit (gs.map (mapQuery f)) = (kept least limit gs).map (mapQuery f) := by
  cases limit with
  | none =>
    simp only [kept, List.filter_map]
    rfl
  | some n =>
    simp only [kept, List.filter_map, List.map_take]
    rfl

end Group

/-- The finding with another form of the filters of its groups. -/
def Finding.mapQueries {R : Type} (f : Query → Query) : Finding R → Finding R
  | figures s => figures s
  | single v => single v
  | groups gs limit v => groups (gs.map (Group.mapQuery f)) limit v

/-- No group of the finding shows a filter. -/
def Finding.ShowsNoQuery {R : Type} : Finding R → Prop
  | groups gs _ _ => ∀ g ∈ gs, g.query = none
  | _ => True

/-- What shows no query stays as it is. -/
lemma Finding.mapQueries_eq_self {R : Type} {f : Query → Query} {x : Finding R}
    (h : x.ShowsNoQuery) : x.mapQueries f = x := by
  cases x with
  | figures s => rfl
  | single v => rfl
  | groups gs limit v =>
    have hgs : gs.map (Group.mapQuery f) = gs.map id :=
      List.map_congr_left fun g hg => Group.mapQuery_of_none (h g hg)
    rw [mapQueries, hgs, List.map_id]

/-! ## Groupings show no filters -/

namespace Grouping

variable {R : Type} {E : Evaluator R} {now : Instant}

/-- Groups of terms have no query. -/
lemma query_of_termGroups {field : String} {substitute : Option Value} {rs : List R}
    {g : Group R} (h : g ∈ termGroups E field substitute rs) : g.query = none := by
  obtain ⟨e, -, rfl⟩ := List.mem_map.1 h
  rfl

/-- Groups of intervals have no query. -/
lemma query_of_intervalGroups {field : String} {interval offset : Double}
    {substitute : Option Value} {rs : List R} {g : Group R}
    (h : g ∈ intervalGroups E field interval offset substitute rs) : g.query = none := by
  obtain ⟨e, -, rfl⟩ := List.mem_map.1 h
  rfl

/-- Groups of dates have no query. -/
lemma query_of_dateGroup {interval : Interval} {zone : Zone} {format : Option String}
    {start : Int} {records : List R} {g : Group R}
    (h : dateGroup interval zone format start records = .ok g) : g.query = none := by
  unfold dateGroup at h
  split at h
  · cases h
  · split at h
    · cases h
    · rw [← Except.ok.inj h]

/-- Groups of ranges of dates have no query. -/
lemma query_of_dateRangeGroup {field : String} {zone : Zone} {format : Option String}
    {rs : List R} {e : RangeEntry Value} {g : Group R}
    (h : dateRangeGroup E now field zone format rs e = .ok g) : g.query = none := by
  unfold dateRangeGroup at h
  split at h
  · cases h
  · split at h
    · cases h
    · obtain ⟨inside, -, rfl⟩ := Sequencing.exists_ok_of_map h
      rfl

/-- Groups of cells have no query. -/
lemma query_of_cellGroups {field : String} {precision : Nat} {rs : List R} {gs : List (Group R)}
    (h : cellGroups E field precision rs = .ok gs) : ∀ g ∈ gs, g.query = none := by
  unfold cellGroups at h
  split at h
  · cases h
  · rw [← Except.ok.inj h]
    intro g hg
    obtain ⟨e, -, rfl⟩ := List.mem_map.1 hg
    rfl

variable [Environment]

/-- **No grouping of the values of a field shows a filter.** -/
theorem find_showsNoQuery {field : String} {rs : List R} {g : Grouping} {x : Finding R}
    (h : g.find E now field rs = .ok x) : x.ShowsNoQuery := by
  cases g with
  | terms size sort format substitute =>
    obtain ⟨gs, rfl, hperm⟩ := exists_sorted_of_find h
    exact fun g hg => query_of_termGroups (hperm.mem_iff.1 hg)
  | histogram interval offset substitute =>
    rw [find] at h
    split at h
    · cases h
      exact fun g hg => query_of_intervalGroups hg
    · cases h
  | dateHistogram interval format timeZone substitute =>
    obtain ⟨i, gs, -, rfl, hgs⟩ := exists_interval_of_find h
    obtain ⟨entries, -, hentries⟩ := dateIntervalGroups_eq_ok_iff.1 hgs
    intro g hg
    obtain ⟨e, -, he⟩ := Sequencing.exists_step hentries hg
    exact query_of_dateGroup (Sequencing.eq_ok_of_mapError he)
  | range ranges =>
    cases h
    intro g hg
    obtain ⟨e, -, rfl⟩ := List.mem_map.1 hg
    rfl
  | dateRange format timeZone ranges =>
    obtain ⟨gs, rfl, hgs⟩ := exists_ranges_of_find h
    intro g hg
    obtain ⟨e, -, he⟩ := hgs g hg
    exact query_of_dateRangeGroup he
  | stats format =>
    cases h
    trivial
  | missing =>
    cases h
    exact fun g hg => List.mem_singleton.1 hg ▸ rfl
  | geoBounds =>
    cases h
    trivial
  | geoCentroid =>
    cases h
    trivial
  | geoHash precision size =>
    obtain ⟨cells, gs, rfl, hcells, hperm⟩ := exists_cellGroups_of_find h
    exact fun g hg => query_of_cellGroups hcells g (hperm.mem_iff.1 hg)
  | geoDistance origin unit ranges =>
    rw [find] at h
    split at h
    · cases h
    · cases h
      intro g hg
      obtain ⟨e, -, rfl⟩ := List.mem_map.1 hg
      rfl

/-- A grouping looks up nothing but its field. -/
theorem find_rename (f : String → String) (field : String) (rs : List R) (g : Grouping) :
    g.find E now (f field) rs = g.find (E.rename f) now field rs := by
  cases g <;> rfl

end Grouping

variable {R : Type} {E : Evaluator R} {now : Instant} {f : String → String} [Environment]

/-! ## Computing -/

/-- The group of a filter that was renamed shows the filter with its new names. -/
lemma AggregationKind.filterGroup_rename (rs : List R) (e : String × Query) :
    filterGroup E now rs (e.1, e.2.rename f) =
      (filterGroup (E.rename f) now rs e).map (Group.mapQuery (Query.rename f)) := by
  rw [filterGroup, filterGroup, Query.compile_rename]
  cases e.2.compile (E.rename f) now with
  | error e => rfl
  | ok p => cases hselect : Query.select p rs <;> simp only [hselect] <;> rfl

/-- **The groups of a kind with other fields** are those of the kind under an evaluator that looks
up other paths, up to the fields of the filters that they show. -/
theorem AggregationKind.find_rename (rs : List R) (k : AggregationKind) :
    (k.rename f).find E now rs =
      (k.find (E.rename f) now rs).map (Finding.mapQueries (Query.rename f)) := by
  cases k with
  | onField field g =>
    rw [rename, find, find, Grouping.find_rename]
    cases h : g.find (E.rename f) now field rs with
    | error e => rfl
    | ok x =>
      have hx : x.mapQueries (Query.rename f) = x :=
        Finding.mapQueries_eq_self (Grouping.find_showsNoQuery h)
      exact congrArg Except.ok hx.symm
  | filters fs =>
    have hgroups : (fs.map fun e => (e.1, e.2.rename f)).mapM (filterGroup E now rs) =
        (fs.mapM (filterGroup (E.rename f) now rs)).map
          (List.map (Group.mapQuery (Query.rename f))) := by
      rw [List.mapM_map, ← Sequencing.mapM_map_result]
      exact Sequencing.mapM_congr fun e _ => filterGroup_rename rs e
    rw [rename, find, find, hgroups]
    cases fs.mapM (filterGroup (E.rename f) now rs) <;> rfl
  | named name => rfl

namespace Aggregation

/-- Several aggregations with other fields, if renaming is transparent to each of them. -/
lemma computeEach_rename {as : List Aggregation}
    (h : ∀ a ∈ as, ∀ rs : List R, (a.rename f).compute E now rs =
      (a.compute (E.rename f) now rs).map (AggregationResult.mapQueries (Query.rename f)))
    (rs : List R) :
    computeEach E now (as.map (rename f)) rs =
      (computeEach (E.rename f) now as rs).map
        (List.map (AggregationResult.mapQueries (Query.rename f))) := by
  rw [computeEach_eq_mapM, computeEach_eq_mapM, List.mapM_map, ← Sequencing.mapM_map_result]
  exact Sequencing.mapM_congr fun a ha => h a ha rs

/-- **The result of an aggregation with other fields** is that of the aggregation under an evaluator
that looks up other paths, up to the fields of the filters that its buckets show.

**Proof sketch.** Induction on the aggregation. Both find the same groups with other filters, and
keep the same ones of them. The records of a group are the same, so that the induction hypothesis
gives the results inside its bucket. -/
theorem compute_rename (a : Aggregation) (rs : List R) :
    (a.rename f).compute E now rs =
      (a.compute (E.rename f) now rs).map (AggregationResult.mapQueries (Query.rename f)) := by
  induction a using Aggregation.induction generalizing rs with
  | step a ih =>
    obtain ⟨key, kind, aggs, extensions, least⟩ := a
    have hkind : (kind.rename f).find E now rs =
        (kind.find (E.rename f) now rs).map (Finding.mapQueries (Query.rename f)) :=
      AggregationKind.find_rename rs kind
    rw [rename, renameAll_eq_map]
    cases hfind : kind.find (E.rename f) now rs with
    | error e =>
      rw [hfind] at hkind
      rw [compute_of_error hkind, compute_of_error hfind]
      rfl
    | ok x =>
      rw [hfind] at hkind
      cases x with
      | figures s | single v =>
        rw [compute, compute, hkind, hfind]
        rfl
      | groups gs limit v =>
        have hbucket : ∀ g : Group R,
            (computeEach E now (aggs.map (rename f)) g.records).map
                (g.mapQuery (Query.rename f)).bucket =
              ((computeEach (E.rename f) now aggs g.records).map g.bucket).map
                (Bucket.mapQueries (Query.rename f)) := by
          intro g
          rw [computeEach_rename ih]
          cases computeEach (E.rename f) now aggs g.records with
          | error e => rfl
          | ok results => exact congrArg Except.ok (Group.bucket_mapQuery _ g results)
        have hbuckets :
            ((Group.kept least limit (gs.map (Group.mapQuery (Query.rename f)))).mapM fun g =>
              (computeEach E now (aggs.map (rename f)) g.records).map g.bucket) =
            ((Group.kept least limit gs).mapM fun g =>
              (computeEach (E.rename f) now aggs g.records).map g.bucket).map
                (List.map (Bucket.mapQueries (Query.rename f))) := by
          rw [Group.kept_mapQuery, List.mapM_map, ← Sequencing.mapM_map_result]
          exact Sequencing.mapM_congr fun g _ => hbucket g
        rw [compute_of_groups hkind, compute_of_groups hfind, hbuckets]
        cases (Group.kept least limit gs).mapM fun g =>
            (computeEach (E.rename f) now aggs g.records).map g.bucket with
        | error e => rfl
        | ok buckets =>
          refine congrArg Except.ok ?_
          rw [AggregationResult.mapQueries, Bucket.mapQueriesList_eq_map]

/-- Tables of results with other fields. -/
theorem computeAll_rename (as : List Aggregation) (rs : List R) :
    computeAll E now (as.map (rename f)) rs =
      (computeAll (E.rename f) now as rs).map
        (Table.mapValues (AggregationResult.mapQueries (Query.rename f))) := by
  rw [computeAll, computeAll, computeEach_rename fun a _ rs => compute_rename a rs]
  cases computeEach (E.rename f) now as rs with
  | error e => rfl
  | ok results => exact congrArg Except.ok (AggregationResult.tabulate_mapQueries _ results)

end Aggregation

end Sift
