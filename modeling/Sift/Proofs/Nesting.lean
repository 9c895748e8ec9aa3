import Sift.Aggregation.Compute
import Sift.Aggregation.Renaming
import Sift.Proofs.Leaves
import Sift.Proofs.TableLaws

/-!
# Aggregations inside aggregations

Aggregations nest without bound, and what is done to one is done to those inside it. The kinds of
an aggregation are collected at every depth; the engine can execute those that contain no
reference. A refusal of the engine for any other reason says what is wrong with a value in the
request, and is never that an aggregation is unsupported.

## Main definitions

* `Sift.Aggregation.kinds`: the kinds at every depth of an aggregation.
* `Sift.Aggregation.Resolved`: no name, and no filter with a text or a name, at any depth.

## Main results

* `Sift.Aggregation.resolved_iff`: the property goes through the aggregations inside.
* `Sift.Aggregation.computeAll_supported`: the engine supports what is resolved.
-/

set_option autoImplicit false

namespace Sift

/-! ## Kinds -/

namespace AggregationKind

/-- The kind looks at a field, or its filters contain neither texts nor names. -/
def Resolved : AggregationKind → Prop
  | onField _ _ => True
  | filters fs => ∀ e ∈ fs, e.2.Resolved
  | named _ => False

instance : DecidablePred Resolved
  | onField _ _ => inferInstanceAs (Decidable True)
  | filters fs => inferInstanceAs (Decidable (∀ e ∈ fs, e.2.Resolved))
  | named _ => inferInstanceAs (Decidable False)

/-- Renaming fields neither makes nor removes names. -/
lemma resolved_rename (f : String → String) (k : AggregationKind) :
    (k.rename f).Resolved ↔ k.Resolved := by
  cases k with
  | onField _ _ => exact Iff.rfl
  | filters fs => simp only [rename, Resolved, List.forall_mem_map, Query.resolved_rename]
  | named _ => exact Iff.rfl

end AggregationKind

namespace Aggregation

/-- An induction over aggregations that covers all aggregations inside at once. -/
@[elab_as_elim]
lemma induction {motive : Aggregation → Prop}
    (step : ∀ a, (∀ b ∈ a.aggs, motive b) → motive a) (a : Aggregation) : motive a :=
  @Aggregation.rec motive (fun as => ∀ a ∈ as, motive a)
    (fun key kind aggs extensions least h => step ⟨key, kind, aggs, extensions, least⟩ h)
    (fun _ h => absurd h List.not_mem_nil)
    (fun _ _ ha hrest => List.forall_mem_cons.2 ⟨ha, hrest⟩) a

mutual

/-- The kind of an aggregation and those of the aggregations inside it, at every depth. -/
def kinds : Aggregation → List AggregationKind
  | ⟨_, kind, aggs, _, _⟩ => kind :: kindsAll aggs

/-- The kinds at every depth of several aggregations. -/
def kindsAll : List Aggregation → List AggregationKind
  | [] => []
  | a :: rest => kinds a ++ kindsAll rest

end

/-- The kinds of a list are those of its aggregations, one after the other. -/
lemma kindsAll_eq_flatMap (as : List Aggregation) : kindsAll as = as.flatMap kinds := by
  induction as with
  | nil => rfl
  | cons a rest ih => rw [kindsAll, ih, List.flatMap_cons]

/-- The kinds of an aggregation are its own, and those of the aggregations inside. -/
lemma kinds_eq (a : Aggregation) : a.kinds = a.kind :: a.aggs.flatMap kinds := by
  cases a
  rw [kinds, kindsAll_eq_flatMap]

/-- At no depth is there a name, or a filter with a text or a name in it. -/
def Resolved (a : Aggregation) : Prop := ∀ k ∈ a.kinds, k.Resolved

instance (a : Aggregation) : Decidable a.Resolved :=
  inferInstanceAs (Decidable (∀ k ∈ a.kinds, k.Resolved))

/-- An aggregation is resolved if its kind and the aggregations inside are. -/
theorem resolved_iff (a : Aggregation) :
    a.Resolved ↔ a.kind.Resolved ∧ ∀ b ∈ a.aggs, b.Resolved := by
  rw [Resolved, kinds_eq, List.forall_mem_cons, List.forall_mem_flatMap]
  exact Iff.rfl

end Aggregation

/-! ## What the engine refuses -/

/-- An error about dates does not say that something is not supported. -/
lemma DateError.supported {α : Type} (e : DateError) :
    Supported (.error e.toError : Except Error α) := by
  intro s hs
  cases e <;> cases hs

/-- A unit of distance may be wrong, but is supported. -/
lemma DistanceUnit.ofRequest_supported (symbol : Option String) :
    Supported (DistanceUnit.ofRequest symbol) := by
  unfold ofRequest
  split
  · exact .ok _
  · split
    · exact .ok _
    · exact .invalidQuery _

/-- A precision may be out of bounds, but is supported. -/
lemma GeoPoint.cell_supported (p : GeoPoint) (precision : Nat) :
    Supported (p.cell precision) := by
  unfold cell
  split
  · exact .invalidQuery _
  · exact .ok _

namespace Grouping

variable {R : Type} {E : Evaluator R} {now : Instant}

/-- A bound of a range of dates may be no date, but is supported. -/
lemma boundInstant_supported (zone : Zone) (v : Value) :
    Supported (boundInstant now zone v) := by
  unfold boundInstant
  split
  · cases DateExpression.evaluate _ now false zone with
    | ok t => exact .ok t
    | error e => exact e.supported
  · split
    · exact .ok _
    · exact .invalidQuery _

/-- A bound that may be absent is supported. -/
lemma boundInstant?_supported (zone : Zone) (v : Option Value) :
    Supported (boundInstant? now zone v) := by
  cases v with
  | none => exact .ok none
  | some v => exact (boundInstant_supported zone v).map some

/-- Asking whether a value is a date in a range can only be broken off. -/
lemma error_of_someBetween {zone : Zone} {lower upper : Option Instant} {vs : List Value}
    {e : Error} (h : someBetween zone lower upper vs = .error e) : e = .crash := by
  obtain ⟨v, -, hv⟩ := Sequencing.exists_error_of_anyM h
  exact Value.recordDate_error (Sequencing.eq_error_of_map (Sequencing.eq_error_of_map hv))

/-- The group of a range of dates is supported. -/
lemma dateRangeGroup_supported (field : String) (zone : Zone) (format : Option String)
    (rs : List R) (e : RangeEntry Value) :
    Supported (dateRangeGroup E now field zone format rs e) := by
  unfold dateRangeGroup
  split
  · rename_i he
    exact (boundInstant?_supported zone e.lower).error he
  · split
    · rename_i he
      exact (boundInstant?_supported zone e.upper).error he
    · refine .map (.of_crash fun _ he => ?_) _
      obtain ⟨r, -, hr⟩ := Query.exists_error_of_select he
      exact error_of_someBetween hr

/-- Groups of cells are supported. -/
lemma cellGroups_supported (field : String) (precision : Nat) (rs : List R) :
    Supported (cellGroups E field precision rs) := by
  have hcells : ∀ ps : List GeoPoint, Supported (cellsOf precision ps) := fun ps =>
    .mapM fun p _ => p.cell_supported precision
  unfold cellGroups
  split
  · rename_i he
    have hentries : Supported (rs.mapM fun r =>
        (cellsOf precision (placesOf E field r)).map fun names => (r, names)) :=
      .mapM fun r _ => (hcells _).map _
    exact hentries.error he
  · exact .ok _

/-- The interval of a record value can only be broken off. -/
lemma error_of_dateSlot? {interval : Interval} {zone : Zone} {v : Value} {e : Error}
    (h : dateSlot? interval zone v = .error e) : e = .crash := by
  unfold dateSlot? at h
  split at h
  · rename_i he
    exact Except.error.inj h ▸ Value.recordDate_error (Sequencing.eq_error_of_map he)
  · split at h
    · exact (DateError.settle_eq_error_iff.1 (Sequencing.eq_error_of_map h)).2
    · cases h

/-- **What the groups of intervals of time are made of**: the starts that every record mentions, and
an interval for each of them. -/
theorem dateIntervalGroups_eq_ok_iff {field : String} {interval : Interval} {zone : Zone}
    {format : Option String} {substitute : Option Value} {rs : List R} {gs : List (Group R)} :
    dateIntervalGroups E field interval zone format substitute rs = .ok gs ↔
      ∃ entries,
        (rs.mapM fun r =>
          (dateSlots interval zone (valuesOr E field substitute r)).map fun starts => (r, starts)) =
            .ok entries ∧
        ((gatherAscending entries).mapM fun e =>
          (dateGroup interval zone format e.1 e.2).mapError DateError.toError) = .ok gs := by
  unfold dateIntervalGroups
  dsimp only
  split
  · rename_i he
    simp [he]
  · rename_i entries he
    simp [he]

/-- The groups of intervals of time fail with a date error or are broken off. -/
lemma dateIntervalGroups_supported (field : String) (interval : Interval) (zone : Zone)
    (format : Option String) (substitute : Option Value) (rs : List R) :
    Supported (dateIntervalGroups E field interval zone format substitute rs) := by
  rw [dateIntervalGroups]
  dsimp only
  split
  · rename_i he
    obtain ⟨r, -, hr⟩ := Sequencing.exists_error_of_mapM he
    obtain ⟨v, -, hv⟩ := Sequencing.exists_error_of_mapM
      (Sequencing.eq_error_of_map (Sequencing.eq_error_of_map hr))
    rw [error_of_dateSlot? hv]
    exact .crash
  · refine .mapM fun entry _ => ?_
    obtain ⟨start, records⟩ := entry
    dsimp only
    cases dateGroup interval zone format start records with
    | error e => exact e.supported
    | ok g => exact .ok g

variable [Environment]

/-- What sorting groups leaves. -/
lemma sorted_eq_ok_iff {order : Group R → Group R → Ordering} {gs hs : List (Group R)} :
    sorted order gs = .ok hs ↔
      Sorting.sort? Environment.groupDisorder order gs = some hs := by
  rw [sorted]
  cases Sorting.sort? Environment.groupDisorder order gs <;> simp

/-- Sorting groups loses and invents nothing. -/
lemma perm_of_sorted {order : Group R → Group R → Ordering} {gs hs : List (Group R)}
    (h : sorted order gs = .ok hs) : hs.Perm gs := Sorting.sort?_perm (sorted_eq_ok_iff.1 h)

/-- Sorting groups can only be broken off. -/
lemma error_of_sorted {order : Group R → Group R → Ordering} {gs : List (Group R)} {e : Error}
    (h : sorted order gs = .error e) : e = .crash := by
  unfold sorted at h
  split at h
  · cases h
  · exact (Except.error.inj h).symm

/-- **When groups can be sorted**: by all methods, or by the one that is used. -/
lemma exists_sorted_iff {order : Group R → Group R → Ordering} {gs : List (Group R)} :
    (∃ hs, sorted order gs = .ok hs) ↔
      Sorting.Sortable order gs ∨ Environment.groupDisorder.Settles order gs := by
  simp only [sorted_eq_ok_iff, Sorting.exists_sort?_iff]

/-- Groups of terms are put in order. -/
lemma exists_sorted_of_find {field : String} {rs : List R} {size : Option Nat}
    {sort : Option BucketOrder} {format : Option String} {substitute : Option Value}
    {found : Finding R}
    (h : (terms size sort format substitute).find E now field rs = .ok found) :
    ∃ gs, found = .groups gs size none ∧ gs.Perm (termGroups E field substitute rs) := by
  rw [find] at h
  split at h
  · cases h
  · rename_i gs hsorted
    exact ⟨gs, (Except.ok.inj h).symm, perm_of_sorted hsorted⟩

/-- Groups of cells are put in order. -/
lemma exists_cellGroups_of_find {field : String} {rs : List R} {precision : Nat}
    {size : Option Nat} {found : Finding R}
    (h : (geoHash precision size).find E now field rs = .ok found) :
    ∃ gs hs, found = .groups hs size none ∧ cellGroups E field precision rs = .ok gs ∧
      hs.Perm gs := by
  rw [find] at h
  split at h
  · cases h
  · rename_i gs hgs
    split at h
    · cases h
    · rename_i hs hsorted
      exact ⟨gs, hs, (Except.ok.inj h).symm, hgs, perm_of_sorted hsorted⟩

/-- Groups of dates come from an interval that can be read. -/
lemma exists_interval_of_find {field : String} {rs : List R} {interval : String}
    {format timeZone : Option String} {substitute : Option Value} {found : Finding R}
    (h : (dateHistogram interval format timeZone substitute).find E now field rs = .ok found) :
    ∃ i gs, Interval.parse interval = .ok i ∧ found = .groups gs none none ∧
      dateIntervalGroups E field i (Zone.ofIdOrUtc timeZone) format substitute rs = .ok gs := by
  rw [find] at h
  split at h
  · cases h
  · rename_i i hi
    split at h
    · cases h
    · rename_i gs hgs
      exact ⟨i, gs, hi, (Except.ok.inj h).symm, hgs⟩

/-- Groups of ranges of dates are found one by one. -/
lemma exists_ranges_of_find {field : String} {rs : List R} {format timeZone : Option String}
    {ranges : List (RangeEntry Value)} {found : Finding R}
    (h : (dateRange format timeZone ranges).find E now field rs = .ok found) :
    ∃ gs, found = .groups gs none none ∧ ∀ g ∈ gs, ∃ e ∈ ranges,
      dateRangeGroup E now field (Zone.ofIdOrUtc timeZone) format rs e = .ok g := by
  rw [find] at h
  split at h
  · cases h
  · rename_i gs hgs
    exact ⟨gs, (Except.ok.inj h).symm, fun g hg => Sequencing.exists_step hgs hg⟩

/-- **Groupings are supported.** What a grouping cannot work with is an invalid value. -/
theorem find_supported (field : String) (rs : List R) (g : Grouping) :
    Supported (g.find E now field rs) := by
  cases g with
  | range _ | stats _ | missing | geoBounds | geoCentroid => exact .ok _
  | terms size sort least substitute =>
    rw [find]
    split
    · rename_i he
      rw [error_of_sorted he]
      exact .crash
    · exact .ok _
  | histogram interval offset substitute =>
    rw [find]
    split
    · exact .ok _
    · exact .invalidQuery _
  | dateHistogram interval format timeZone substitute =>
    rw [find]
    split
    · rename_i e _
      exact e.supported
    · split
      · rename_i he
        exact (dateIntervalGroups_supported field _ _ format substitute rs).error he
      · exact .ok _
  | dateRange format timeZone ranges =>
    rw [find]
    split
    · rename_i he
      have hranges : Supported
          (ranges.mapM (dateRangeGroup E now field (Zone.ofIdOrUtc timeZone) format rs)) :=
        .mapM fun entry _ => dateRangeGroup_supported field _ format rs entry
      exact hranges.error he
    · exact .ok _
  | geoHash precision size =>
    rw [find]
    split
    · rename_i he
      exact (cellGroups_supported field precision rs).error he
    · split
      · rename_i he
        rw [error_of_sorted he]
        exact .crash
      · exact .ok _
  | geoDistance origin unit ranges =>
    rw [find]
    split
    · rename_i he
      exact (DistanceUnit.ofRequest_supported unit).error he
    · exact .ok _

end Grouping

variable {R : Type} {E : Evaluator R} {now : Instant} [Environment]

/-- The group of a filter without placeholders is supported. -/
lemma AggregationKind.filterGroup_supported {e : String × Query} (h : e.2.Resolved)
    (rs : List R) : Supported (filterGroup E now rs e) := by
  rw [filterGroup]
  split
  · rename_i he
    exact (Query.compile_supported h).error he
  · rename_i hp
    exact .map (.of_crash fun _ he => Query.error_of_select hp he) _

/-- A kind without names, and without texts and names in its filters, is supported. -/
lemma AggregationKind.find_supported {k : AggregationKind} (h : k.Resolved) (rs : List R) :
    Supported (k.find E now rs) := by
  cases k with
  | onField field g => exact g.find_supported field rs
  | filters fs =>
    rw [find]
    split
    · rename_i he
      have hgroups : Supported (fs.mapM (filterGroup E now rs)) :=
        .mapM fun e hmem => filterGroup_supported (h e hmem) rs
      exact hgroups.error he
    · exact .ok _
  | named _ => exact h.elim

namespace Aggregation

/-- Several aggregations are computed one after the other. -/
lemma computeEach_eq_mapM (E : Evaluator R) (now : Instant) (as : List Aggregation)
    (rs : List R) : computeEach E now as rs = as.mapM fun a => a.compute E now rs := by
  induction as with
  | nil => rfl
  | cons a rest ih =>
    rw [computeEach, Sequencing.mapM_cons, ih]
    cases a.compute E now rs with
    | error e => rfl
    | ok result => cases rest.mapM fun a => a.compute E now rs <;> rfl

/-- Where nothing can be found, nothing is computed. -/
lemma compute_of_error {a : Aggregation} {rs : List R} {e : Error}
    (h : a.kind.find E now rs = .error e) : a.compute E now rs = .error e := by
  cases a
  rw [compute, h]

/-- Where groups are found, those that are kept become buckets with results for their records. -/
lemma compute_of_groups {a : Aggregation} {rs : List R} {gs : List (Group R)}
    {limit : Option Nat} {v : Option Value}
    (h : a.kind.find E now rs = .ok (.groups gs limit v)) :
    a.compute E now rs =
      ((Group.kept a.minDocCount limit gs).mapM fun g =>
        (computeEach E now a.aggs g.records).map g.bucket).map fun buckets =>
          { key := a.key, buckets := some buckets, value := v } := by
  obtain ⟨key, kind, aggs, extensions, least⟩ := a
  replace h : kind.find E now rs = .ok (.groups gs limit v) := h
  rw [compute, h]
  dsimp only
  cases (Group.kept least limit gs).mapM fun g =>
    (computeEach E now aggs g.records).map g.bucket <;> rfl

/-- A result has the key of its aggregation. -/
lemma key_of_compute {a : Aggregation} {rs : List R} {result : AggregationResult}
    (h : a.compute E now rs = .ok result) : result.key = a.key := by
  cases hfind : a.kind.find E now rs with
  | error e =>
    rw [compute_of_error hfind] at h
    cases h
  | ok x =>
    cases x with
    | figures _ | single _ =>
      cases a
      rw [compute, hfind] at h
      rw [← Except.ok.inj h]
    | groups gs limit v =>
      rw [compute_of_groups hfind] at h
      obtain ⟨buckets, -, rfl⟩ := Sequencing.exists_ok_of_map h
      rfl

/-- The results of several aggregations are in key order, under the keys of the aggregations. -/
lemma computeAll_table {as : List Aggregation} {rs : List R} {t : Table AggregationResult}
    (h : computeAll E now as rs = .ok t) :
    Table.Sorted t ∧ ∀ e ∈ t, e.1 ∈ as.map Aggregation.key := by
  obtain ⟨results, hresults, rfl⟩ := Sequencing.exists_ok_of_map h
  rw [computeEach_eq_mapM] at hresults
  refine ⟨Table.sorted_ofList _, fun e he => ?_⟩
  obtain ⟨result, hresult, rfl⟩ := List.mem_map.1 (Table.mem_of_mem_ofList he)
  obtain ⟨a, ha, hcompute⟩ := Sequencing.exists_step hresults hresult
  rw [key_of_compute hcompute]
  exact List.mem_map_of_mem ha

/-- An aggregation without references is supported, whatever records it meets.

**Proof sketch.** The kind finds figures, a value or groups, or fails with an invalid value. For
groups the aggregations inside are computed for the records of each group, and the claim for them
is the induction hypothesis. -/
theorem compute_supported {a : Aggregation} (h : a.Resolved) (rs : List R) :
    Supported (a.compute E now rs) := by
  induction a using Aggregation.induction generalizing rs with
  | step a ih =>
    obtain ⟨hkind, hinside⟩ := (resolved_iff a).1 h
    cases hfind : a.kind.find E now rs with
    | error e =>
      rw [compute_of_error hfind]
      exact (AggregationKind.find_supported hkind rs).error hfind
    | ok x =>
      cases x with
      | figures _ | single _ =>
        cases a
        rw [compute, hfind]
        exact .ok _
      | groups gs limit v =>
        have heach : ∀ g : Group R, Supported (computeEach E now a.aggs g.records) := by
          intro g
          rw [computeEach_eq_mapM]
          exact .mapM fun b hb => ih b hb (hinside b hb) g.records
        rw [compute_of_groups hfind]
        exact .map (.mapM fun g _ => (heach g).map _) _

/-- **Execution.** A request without references is never answered by the refusal of an
aggregation as unsupported. -/
theorem computeAll_supported {as : List Aggregation} (h : ∀ a ∈ as, a.Resolved) (rs : List R) :
    Supported (computeAll E now as rs) := by
  have heach : Supported (computeEach E now as rs) := by
    rw [computeEach_eq_mapM]
    exact .mapM fun a ha => compute_supported (h a ha) rs
  exact heach.map _

end Aggregation

end Sift
