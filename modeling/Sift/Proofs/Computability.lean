import Sift.Proofs.DrillDown
import Sift.Proofs.GatheredRecords
import Sift.Time.Regions

/-!
# When records fail an aggregation

A request that makes sense by itself can be computed for most records, but not for all. A date that
starts an interval of time without an end fails the whole computation. A date that clocks cannot
show, or whose interval has no start in 64 bits, breaks it off, and so may the keys of more than
twenty groups that are in no order. Nothing else that records contain does; values that cannot be
grouped are passed over. The aggregations and the records that a computation meets decide about it
exactly.

## Main definitions

* `Sift.Aggregation.Valid`: aggregations that make sense, whatever records there are.
* `Sift.Aggregation.Reaches`: the aggregations that a computation meets, with their records.
* `Sift.AggregationKind.Admits`: records that do not fail a kind.

## Main results

* `Sift.AggregationKind.exists_find_iff`: when groups can be found.
* `Sift.Aggregation.exists_computeAll_iff`: when aggregations can be computed.
* `Sift.Aggregation.exists_computeAll_of_steady`: kinds that no record fails.
* `Sift.Aggregation.daily_without_end`: a day that is followed by one that clocks skip.
-/

set_option autoImplicit false

namespace Sift

section Requests

variable {R : Type} [Environment]

/-! ## Requests that make sense -/

namespace Grouping

/-- The settings make sense: intervals are positive or can be read, cells have a name, units are
known and bounds are instants. -/
def Valid (now : Instant) : Grouping → Prop
  | histogram interval _ _ => interval.isFinite = true ∧ (Floating.zero false).numLt interval = true
  | dateHistogram interval _ _ _ => ∃ i, Interval.parse interval = .ok i
  | dateRange _ timeZone ranges => ∀ e ∈ ranges,
      (∃ t, boundInstant? now (Zone.ofIdOrUtc timeZone) e.lower = .ok t) ∧
        ∃ t, boundInstant? now (Zone.ofIdOrUtc timeZone) e.upper = .ok t
  | geoHash precision _ => 1 ≤ precision ∧ precision ≤ 12
  | geoDistance _ unit _ => ∃ u, DistanceUnit.ofRequest unit = .ok u
  | terms _ _ _ _ | range _ | stats _ | missing | geoBounds | geoCentroid => True

/-- The records do not fail the grouping. Their terms are few, or in order, or what sorts them
settles on some order. Every date among their values has a start, and the interval that starts there
has an end. No date breaks off the question whether it lies in a range. -/
def Admits (E : Evaluator R) (now : Instant) (field : String) (rs : List R) : Grouping → Prop
  | terms _ sort _ substitute =>
      Sorting.Sortable (order (sort.getD .count)) (termGroups E field substitute rs) ∨
        Environment.groupDisorder.Settles (order (sort.getD .count))
          (termGroups E field substitute rs)
  | dateHistogram interval _ timeZone substitute => ∀ i, Interval.parse interval = .ok i →
      ∀ r ∈ rs, ∀ v ∈ valuesOr E field substitute r,
        dateSlot? i (Zone.ofIdOrUtc timeZone) v ≠ .error .crash ∧
          ∀ start, dateSlot? i (Zone.ofIdOrUtc timeZone) v = .ok (some start) →
            i.Closes (Zone.ofIdOrUtc timeZone) start
  | dateRange _ timeZone ranges => ∀ e ∈ ranges, ∀ lower upper,
      boundInstant? now (Zone.ofIdOrUtc timeZone) e.lower = .ok lower →
        boundInstant? now (Zone.ofIdOrUtc timeZone) e.upper = .ok upper →
          ∀ r ∈ rs, someBetween (Zone.ofIdOrUtc timeZone) lower upper (E.extract r field) ≠
            .error .crash
  | _ => True

end Grouping

namespace AggregationKind

/-- The kind makes sense: it is no name, its filters can be compiled, and so on. -/
def Valid (E : Evaluator R) (now : Instant) : AggregationKind → Prop
  | onField _ g => g.Valid now
  | filters fs => ∀ f ∈ fs, ∃ p, f.2.compile E now = .ok p
  | named _ => False

/-- The records do not fail the kind: they can be grouped, and no record breaks off a filter. -/
def Admits (E : Evaluator R) (now : Instant) (rs : List R) : AggregationKind → Prop
  | onField field g => g.Admits E now field rs
  | filters fs => ∀ f ∈ fs, ∀ p, f.2.compile E now = .ok p → ∀ r ∈ rs, p r ≠ .error .crash
  | named _ => True

/-- Kinds that no record fails. They neither read dates nor put keys in order. -/
def Steady : AggregationKind → Prop
  | onField _ (.terms ..) | onField _ (.dateHistogram ..) | onField _ (.dateRange ..) => False
  | filters _ | named _ => False
  | onField _ _ => True

end AggregationKind

/-- The kinds at every depth make sense. -/
def Aggregation.Valid (E : Evaluator R) (now : Instant) (a : Aggregation) : Prop :=
  ∀ k ∈ a.kinds, k.Valid E now

variable {E : Evaluator R} {now : Instant}

/-- An aggregation makes sense if its kind and the aggregations inside do. -/
lemma Aggregation.valid_iff (a : Aggregation) :
    a.Valid E now ↔ a.kind.Valid E now ∧ ∀ b ∈ a.aggs, b.Valid E now := by
  rw [Valid, kinds_eq, List.forall_mem_cons, List.forall_mem_flatMap]
  exact Iff.rfl

omit [Environment] in
/-- What can only be broken off succeeds exactly if it is not. -/
lemma exists_ok_iff_ne_crash {α : Type} {x : Except Error α}
    (h : ∀ e, x = .error e → e = .crash) : (∃ a, x = .ok a) ↔ x ≠ .error .crash := by
  cases x with
  | error e =>
    obtain rfl := h e rfl
    simp
  | ok a => simp

namespace Grouping

/-! ## Intervals of time -/

omit [Environment] in
/-- There is a group for an interval if the interval has an end. -/
lemma exists_dateGroup_iff {i : Interval} {zone : Zone} {format : Option String} {start : Int}
    {t : Instant} (ht : Instant.ofMillis? start = some t) (records : List R) :
    (∃ g, dateGroup i zone format start records = .ok g) ↔ i.Closes zone start := by
  rw [dateGroup, ht, Interval.Closes, ht]
  dsimp only
  constructor
  · rintro ⟨g, hg⟩ s hs
    obtain rfl := Option.some.inj hs
    split at hg
    · cases hg
    · rename_i u hu
      exact ⟨u, hu⟩
  · intro h
    obtain ⟨u, hu⟩ := h t rfl
    rw [hu]
    exact ⟨_, rfl⟩

omit [Environment] in
/-- There are groups for the intervals of records if all dates have a start and all starts have an
end. -/
lemma exists_dateIntervalGroups_iff {field : String} {i : Interval} {zone : Zone}
    {format : Option String} {substitute : Option Value} {rs : List R} :
    (∃ gs, dateIntervalGroups E field i zone format substitute rs = .ok gs) ↔
      ∀ r ∈ rs, ∀ v ∈ valuesOr E field substitute r, dateSlot? i zone v ≠ .error .crash ∧
        ∀ start, dateSlot? i zone v = .ok (some start) → i.Closes zone start := by
  have hends : ∀ {start : Int} {records : List R} {v : Value},
      dateSlot? i zone v = .ok (some start) →
        ((∃ g, (dateGroup i zone format start records).mapError DateError.toError = .ok g) ↔
          i.Closes zone start) := by
    intro start records v hstart
    obtain ⟨t, ht⟩ := exists_ofMillis?_of_dateSlot? hstart
    have hgroup : (∃ g, dateGroup i zone format start records = .ok g) ↔ i.Closes zone start :=
      exists_dateGroup_iff ht records
    rw [← hgroup]
    cases dateGroup i zone format start records <;> simp [Except.mapError]
  simp only [dateIntervalGroups_eq_ok_iff]
  constructor
  · rintro ⟨gs, entries, hentries, hgroups⟩ r hr v hv
    obtain ⟨mentioned, hmentioned, rfl⟩ := entries_of_mapM hentries
    obtain ⟨slots, hslots, -⟩ := dateSlots_eq_ok_iff.1 (hmentioned r hr)
    obtain ⟨slot, -, hslot⟩ := Sequencing.exists_result hslots hv
    refine ⟨by rw [hslot]; exact nofun, fun start hstart => ?_⟩
    -- The start is mentioned, so that there is a group for it.
    have hmem := (mem_of_dateSlots (hmentioned r hr)).2 ⟨v, hv, hstart⟩
    obtain ⟨⟨start', records⟩, he, rfl⟩ := exists_mem_gather id hr hmem
    obtain ⟨g, -, hg⟩ := Sequencing.exists_result hgroups ((Sorting.sort_perm _ _).mem_iff.2 he)
    exact (hends hstart).1 ⟨g, hg⟩
  · intro h
    have hslots : ∀ r ∈ rs, ∃ starts,
        dateSlots i zone (valuesOr E field substitute r) = .ok starts := by
      intro r hr
      obtain ⟨slots, hslots⟩ := Sequencing.exists_ok_mapM_iff.2 fun v hv =>
        (exists_ok_iff_ne_crash fun e he => error_of_dateSlot? he).2 (h r hr v hv).1
      exact ⟨_, dateSlots_eq_ok_iff.2 ⟨slots, hslots, rfl⟩⟩
    obtain ⟨entries, hentries⟩ : ∃ entries, (rs.mapM fun r =>
        (dateSlots i zone (valuesOr E field substitute r)).map fun starts => (r, starts)) =
          .ok entries :=
      Sequencing.exists_ok_mapM_iff.2 fun r hr => Sequencing.exists_ok_map_iff.2 (hslots r hr)
    obtain ⟨mentioned, hmentioned, hshape⟩ := entries_of_mapM hentries
    refine (Sequencing.exists_ok_mapM_iff.2 ?_).imp fun gs hgs => ⟨entries, hentries, hgs⟩
    rintro ⟨start, records⟩ he
    rw [hshape] at he
    obtain ⟨⟨r, hr, hmem⟩, -⟩ := mem_gather ((Sorting.sort_perm _ _).mem_iff.1 he)
    obtain ⟨v, hv, hstart⟩ := (mem_of_dateSlots (hmentioned r hr)).1 hmem
    exact (hends hstart).2 ((h r hr v hv).2 start hstart)

omit [Environment] in
/-- Groups for intervals of time fail for want of a date, or are broken off. -/
lemma dateIntervalGroups_error {field : String} {i : Interval} {zone : Zone}
    {format : Option String} {substitute : Option Value} {rs : List R} {e : Error}
    (h : dateIntervalGroups E field i zone format substitute rs = .error e) :
    e = .crash ∨ ∃ reason, e = .dateMath reason := by
  have hends : ∀ {start : Int} {records : List R} {e : DateError},
      dateGroup i zone format start records = .error e →
        e.toError = .crash ∨ ∃ reason, e.toError = .dateMath reason := by
    intro start records e hgroup
    unfold dateGroup at hgroup
    split at hgroup
    · obtain rfl := Except.error.inj hgroup
      exact .inr ⟨_, rfl⟩
    · split at hgroup
      · rename_i hadd
        obtain rfl := Except.error.inj hgroup
        rcases DateUnit.add_error hadd with rfl | ⟨w, rfl⟩ | ⟨rfl, -⟩
        · exact .inr ⟨_, rfl⟩
        · exact .inr ⟨_, rfl⟩
        · exact .inl rfl
      · cases hgroup
  unfold dateIntervalGroups at h
  dsimp only at h
  split at h
  · rename_i hentries
    obtain rfl := Except.error.inj h
    obtain ⟨r, -, hr⟩ := Sequencing.exists_error_of_mapM hentries
    obtain ⟨v, -, hv⟩ := Sequencing.exists_error_of_mapM
      (Sequencing.eq_error_of_map (Sequencing.eq_error_of_map hr))
    exact .inl (error_of_dateSlot? hv)
  · obtain ⟨⟨start, records⟩, -, hgroup⟩ := Sequencing.exists_error_of_mapM h
    dsimp only at hgroup
    cases hstart : dateGroup i zone format start records with
    | error e' =>
      rw [hstart] at hgroup
      exact Except.error.inj hgroup ▸ hends hstart
    | ok g =>
      rw [hstart] at hgroup
      cases hgroup

/-! ## Ranges of time and cells -/

omit [Environment] in
/-- There is a group for a range whose ends are instants, unless a record breaks it off. -/
lemma exists_dateRangeGroup_iff {zone : Zone} {e : RangeEntry Value} {lower upper : Option Instant}
    (hlower : boundInstant? now zone e.lower = .ok lower)
    (hupper : boundInstant? now zone e.upper = .ok upper) {field : String}
    {format : Option String} {rs : List R} :
    (∃ g, dateRangeGroup E now field zone format rs e = .ok g) ↔
      ∀ r ∈ rs, someBetween zone lower upper (E.extract r field) ≠ .error .crash := by
  rw [dateRangeGroup, hlower, hupper]
  dsimp only
  rw [Sequencing.exists_ok_map_iff, Query.exists_select_iff]
  exact forall₂_congr fun r _ => exists_ok_iff_ne_crash fun e he => error_of_someBetween he

omit [Environment] in
/-- The group of a range whose ends are instants can only be broken off. -/
lemma dateRangeGroup_error {zone : Zone} {e : RangeEntry Value}
    (hlower : ∃ t, boundInstant? now zone e.lower = .ok t)
    (hupper : ∃ t, boundInstant? now zone e.upper = .ok t) {field : String}
    {format : Option String} {rs : List R} {err : Error}
    (h : dateRangeGroup E now field zone format rs e = .error err) : err = .crash := by
  obtain ⟨lower, hlower⟩ := hlower
  obtain ⟨upper, hupper⟩ := hupper
  rw [dateRangeGroup, hlower, hupper] at h
  obtain ⟨r, -, hr⟩ := Query.exists_error_of_select (Sequencing.eq_error_of_map h)
  exact error_of_someBetween hr

omit [Environment] in
/-- There are groups for cells whose names have between one and twelve characters. -/
lemma exists_cellGroups {precision : Nat} (hpos : 1 ≤ precision) (hle : precision ≤ 12)
    (field : String) (rs : List R) : ∃ gs, cellGroups E field precision rs = .ok gs := by
  have hcell : ∀ p : GeoPoint, ∃ name, p.cell precision = .ok name := by
    intro p
    have hprecision : ¬ (precision = 0 ∨ maxCellPrecision < precision) := by
      unfold maxCellPrecision
      omega
    exact ⟨_, if_neg hprecision⟩
  have hcells : ∀ ps, ∃ names, cellsOf precision ps = .ok names := fun ps =>
    Sequencing.exists_ok_mapM_iff.2 fun p _ => hcell p
  obtain ⟨entries, hentries⟩ : ∃ entries,
      (rs.mapM fun r => (cellsOf precision (placesOf E field r)).map fun names => (r, names)) =
        .ok entries :=
    Sequencing.exists_ok_mapM_iff.2 fun r _ => Sequencing.exists_ok_map_iff.2 (hcells _)
  rw [cellGroups, hentries]
  exact ⟨_, rfl⟩

/-- The groups of cells can be put in order, since their keys are texts. -/
lemma exists_sorted_cellGroups {precision : Nat} {field : String} {rs : List R}
    {gs : List (Group R)} (h : cellGroups E field precision rs = .ok gs) :
    ∃ hs, sorted byCount gs = .ok hs := by
  have htexts : ∀ g ∈ gs, ∃ name, g.key = .str name := by
    unfold cellGroups at h
    split at h
    · cases h
    · obtain rfl := Except.ok.inj h
      intro g hg
      obtain ⟨e, -, rfl⟩ := List.mem_map.1 hg
      exact ⟨e.1, rfl⟩
  refine exists_sorted_iff.2 (.inl (.inr (consistent_byCount_iff.2 ?_)))
  intro a _ b hb c _ _ _
  obtain ⟨name, hname⟩ := htexts b hb
  rw [hname]
  exact not_merges_str name a.key c.key

/-! ## All groupings -/

/-- Records do not fail a histogram of dates if its groups can be found. -/
lemma admits_dateHistogram_iff {field interval : String} {i : Interval}
    (hi : Interval.parse interval = .ok i) {format timeZone : Option String}
    {substitute : Option Value} {rs : List R} :
    (dateHistogram interval format timeZone substitute).Admits E now field rs ↔
      ∃ gs, dateIntervalGroups E field i (Zone.ofIdOrUtc timeZone) format substitute rs =
        .ok gs := by
  rw [exists_dateIntervalGroups_iff]
  constructor
  · exact fun h => h i hi
  · intro h j hj
    rw [hi] at hj
    exact Except.ok.inj hj ▸ h

/-- Records do not fail ranges of dates if the groups of all of them can be found. -/
lemma admits_dateRange_iff {field : String} {format timeZone : Option String}
    {ranges : List (RangeEntry Value)} (hranges : (dateRange format timeZone ranges).Valid now)
    {rs : List R} :
    (dateRange format timeZone ranges).Admits E now field rs ↔
      ∃ gs, ranges.mapM (dateRangeGroup E now field (Zone.ofIdOrUtc timeZone) format rs) =
        .ok gs := by
  rw [Sequencing.exists_ok_mapM_iff]
  refine forall₂_congr fun e he => ?_
  obtain ⟨⟨lower, hlower⟩, upper, hupper⟩ := hranges e he
  rw [exists_dateRangeGroup_iff hlower hupper]
  constructor
  · exact fun h => h lower upper hlower hupper
  · intro h lower' upper' hlower' hupper'
    obtain rfl := Except.ok.inj (hlower.symm.trans hlower')
    obtain rfl := Except.ok.inj (hupper.symm.trans hupper')
    exact h

/-- A grouping that makes sense finds something exactly if the records do not fail it. -/
theorem exists_find_iff {g : Grouping} (hg : g.Valid now) (field : String) (rs : List R) :
    (∃ x, g.find E now field rs = .ok x) ↔ g.Admits E now field rs := by
  cases g with
  | range _ | stats _ | missing | geoBounds | geoCentroid =>
    exact iff_of_true ⟨_, rfl⟩ trivial
  | terms size sort format substitute =>
    rw [Admits, ← exists_sorted_iff, find]
    cases sorted (order (sort.getD .count)) (termGroups E field substitute rs) with
    | error e => simp
    | ok hs => simp
  | histogram interval offset substitute =>
    obtain ⟨hfinite, hpositive⟩ := hg
    refine iff_of_true ?_ trivial
    rw [find, hfinite, hpositive]
    exact ⟨_, rfl⟩
  | dateHistogram interval format timeZone substitute =>
    obtain ⟨i, hi⟩ := hg
    rw [admits_dateHistogram_iff hi, find, hi]
    dsimp only
    cases dateIntervalGroups E field i (Zone.ofIdOrUtc timeZone) format substitute rs with
    | error e => simp
    | ok gs => simp
  | dateRange format timeZone ranges =>
    rw [admits_dateRange_iff hg, find]
    cases ranges.mapM (dateRangeGroup E now field (Zone.ofIdOrUtc timeZone) format rs) with
    | error e => simp
    | ok gs => simp
  | geoHash precision size =>
    obtain ⟨gs, hgs⟩ := exists_cellGroups (E := E) hg.1 hg.2 field rs
    obtain ⟨hs, hhs⟩ := exists_sorted_cellGroups hgs
    refine iff_of_true ?_ trivial
    rw [find, hgs]
    dsimp only
    rw [hhs]
    exact ⟨_, rfl⟩
  | geoDistance origin unit ranges =>
    obtain ⟨u, hu⟩ := hg
    refine iff_of_true ?_ trivial
    rw [find, hu]
    exact ⟨_, rfl⟩

/-- A grouping that makes sense fails with a date or is broken off. -/
lemma find_error {g : Grouping} (hg : g.Valid now) {field : String} {rs : List R} {e : Error}
    (h : g.find E now field rs = .error e) : e = .crash ∨ ∃ reason, e = .dateMath reason := by
  have hfound : g.Admits E now field rs → e = .crash ∨ ∃ reason, e = .dateMath reason := by
    intro hadmits
    obtain ⟨x, hx⟩ := (exists_find_iff hg field rs).2 hadmits
    rw [h] at hx
    cases hx
  cases g with
  | terms size sort format substitute =>
    rw [find] at h
    split at h
    · rename_i hsorted
      exact .inl (Except.error.inj h ▸ error_of_sorted hsorted)
    · cases h
  | dateHistogram interval format timeZone substitute =>
    obtain ⟨i, hi⟩ := hg
    rw [find, hi] at h
    dsimp only at h
    split at h
    · rename_i hgroups
      exact Except.error.inj h ▸ dateIntervalGroups_error hgroups
    · cases h
  | dateRange format timeZone ranges =>
    rw [find] at h
    split at h
    · rename_i hgroups
      obtain ⟨entry, hentry, hgroup⟩ := Sequencing.exists_error_of_mapM hgroups
      exact .inl (Except.error.inj h ▸
        dateRangeGroup_error (hg entry hentry).1 (hg entry hentry).2 hgroup)
    · cases h
  | histogram _ _ _ | range _ | stats _ | missing | geoBounds | geoCentroid | geoHash _ _
  | geoDistance _ _ _ => exact hfound trivial

end Grouping

namespace AggregationKind

/-- There is a group for a filter that can be compiled, unless a record breaks it off. -/
lemma exists_filterGroup_iff {f : String × Query} {p : R → Except Error Bool}
    (hp : f.2.compile E now = .ok p) (rs : List R) :
    (∃ g, filterGroup E now rs f = .ok g) ↔ ∀ r ∈ rs, p r ≠ .error .crash := by
  rw [filterGroup, hp]
  dsimp only
  rw [Sequencing.exists_ok_map_iff, Query.exists_select_iff]
  exact forall₂_congr fun r _ => exists_ok_iff_ne_crash fun e he => Query.error_of_predicate hp he

/-- **Groups can be found** for a kind that makes sense, exactly if the records do not fail it. -/
theorem exists_find_iff {k : AggregationKind} (hk : k.Valid E now) (rs : List R) :
    (∃ x, k.find E now rs = .ok x) ↔ k.Admits E now rs := by
  cases k with
  | onField field g =>
    rw [find]
    exact Grouping.exists_find_iff hk field rs
  | filters fs =>
    have hgroups : (∃ gs, fs.mapM (filterGroup E now rs) = .ok gs) ↔
        (filters fs).Admits E now rs := by
      rw [Sequencing.exists_ok_mapM_iff]
      refine forall₂_congr fun f hf => ?_
      obtain ⟨p, hp⟩ := hk f hf
      rw [exists_filterGroup_iff hp]
      exact ⟨fun h p' hp' => Except.ok.inj (hp.symm.trans hp') ▸ h, fun h => h p hp⟩
    rw [← hgroups, find]
    cases fs.mapM (filterGroup E now rs) with
    | error e => simp
    | ok gs => simp
  | named _ => exact hk.elim

/-- A kind that makes sense fails with a date or is broken off. -/
lemma find_error {k : AggregationKind} (hk : k.Valid E now) {rs : List R} {e : Error}
    (h : k.find E now rs = .error e) : e = .crash ∨ ∃ reason, e = .dateMath reason := by
  cases k with
  | onField field g =>
    rw [find] at h
    exact Grouping.find_error hk h
  | filters fs =>
    rw [find] at h
    split at h
    · rename_i hgroups
      obtain ⟨f, hf, hgroup⟩ := Sequencing.exists_error_of_mapM hgroups
      obtain ⟨p, hp⟩ := hk f hf
      rw [filterGroup, hp] at hgroup
      exact .inl (Except.error.inj h ▸
        Query.error_of_select hp (Sequencing.eq_error_of_map hgroup))
    · cases h
  | named _ => exact hk.elim

end AggregationKind

namespace Aggregation

/-! ## What a computation meets -/

/-- The aggregations that the computation of an aggregation for records meets, with the records
that they are computed for: the aggregation itself, and those inside it for every bucket. -/
inductive Reaches (E : Evaluator R) (now : Instant) :
    Aggregation → List R → Aggregation → List R → Prop where
  /-- The aggregation itself. -/
  | here (a : Aggregation) (rs : List R) : Reaches E now a rs a rs
  /-- An aggregation inside, for the records of a bucket. -/
  | within {a b c : Aggregation} {rs rs' : List R} {gs : List (Group R)} {limit : Option Nat}
      {value : Option Value} {g : Group R}
      (hfind : a.kind.find E now rs = .ok (.groups gs limit value))
      (hg : g ∈ Group.kept a.minDocCount limit gs) (hb : b ∈ a.aggs)
      (hc : Reaches E now b g.records c rs') : Reaches E now a rs c rs'

/-- The records do not fail any of the aggregations that a computation meets. -/
def Admits (E : Evaluator R) (now : Instant) (a : Aggregation) (rs : List R) : Prop :=
  ∀ b rs', Reaches E now a rs b rs' → b.kind.Admits E now rs'

/-- One step of the computation: the kind, and the aggregations inside for every bucket. -/
lemma admits_iff (a : Aggregation) (rs : List R) :
    a.Admits E now rs ↔ a.kind.Admits E now rs ∧ ∀ gs limit value,
      a.kind.find E now rs = .ok (.groups gs limit value) →
        ∀ g ∈ Group.kept a.minDocCount limit gs, ∀ b ∈ a.aggs, b.Admits E now g.records := by
  constructor
  · intro h
    refine ⟨h a rs (.here a rs), fun gs limit value hfind g hg b hb c rs' hc => ?_⟩
    exact h c rs' (.within hfind hg hb hc)
  · rintro ⟨hkind, hinside⟩ c rs' hc
    cases hc with
    | here => exact hkind
    | within hfind hg hb hc => exact hinside _ _ _ hfind _ hg _ hb c rs' hc

/-- What a computation meets is inside the aggregation. -/
lemma Reaches.kind_mem {a b : Aggregation} {rs rs' : List R} (h : Reaches E now a rs b rs') :
    b.kind ∈ a.kinds := by
  induction h with
  | here a rs =>
    rw [kinds_eq]
    exact List.mem_cons_self
  | within hfind hg hb hc ih =>
    rw [kinds_eq]
    exact List.mem_cons_of_mem _ (List.mem_flatMap.2 ⟨_, hb, ih⟩)

/-! ## Computing -/

/-- An aggregation that makes sense can be computed exactly if the records do not fail it.

**Proof sketch.** Induction on the aggregation. If its kind finds nothing, the records fail it. If
it finds figures or a value, that is the result. If it finds groups, there is a result exactly if
the aggregations inside have one for the records of each bucket. -/
theorem exists_compute_iff {a : Aggregation} (ha : a.Valid E now) (rs : List R) :
    (∃ result, a.compute E now rs = .ok result) ↔ a.Admits E now rs := by
  induction a using Aggregation.induction generalizing rs with
  | step a ih =>
    obtain ⟨hkind, hinside⟩ := (valid_iff a).1 ha
    rw [admits_iff, ← AggregationKind.exists_find_iff hkind rs]
    cases hfind : a.kind.find E now rs with
    | error e => simp [compute_of_error hfind]
    | ok x =>
      cases x with
      | figures _ | single _ =>
        cases a
        rw [compute, hfind]
        simp
      | groups gs limit value =>
        have hbuckets : (∃ result, a.compute E now rs = .ok result) ↔
            ∀ g ∈ Group.kept a.minDocCount limit gs, ∀ b ∈ a.aggs, b.Admits E now g.records := by
          rw [compute_of_groups hfind, Sequencing.exists_ok_map_iff, Sequencing.exists_ok_mapM_iff]
          refine forall₂_congr fun g _ => ?_
          rw [Sequencing.exists_ok_map_iff, computeEach_eq_mapM, Sequencing.exists_ok_mapM_iff]
          exact forall₂_congr fun b hb => ih b hb (hinside b hb) g.records
        rw [hbuckets]
        constructor
        · rintro h
          refine ⟨⟨_, rfl⟩, fun gs' limit' value' heq => ?_⟩
          cases heq
          exact h
        · exact fun h => h.2 gs limit value rfl

/-- An aggregation that makes sense fails with a date or is broken off. -/
lemma compute_error {a : Aggregation} (ha : a.Valid E now) {rs : List R} {e : Error}
    (h : a.compute E now rs = .error e) : e = .crash ∨ ∃ reason, e = .dateMath reason := by
  induction a using Aggregation.induction generalizing rs with
  | step a ih =>
    obtain ⟨hkind, hinside⟩ := (valid_iff a).1 ha
    cases hfind : a.kind.find E now rs with
    | error e' =>
      rw [compute_of_error hfind] at h
      exact Except.error.inj h ▸ AggregationKind.find_error hkind hfind
    | ok x =>
      cases x with
      | figures _ | single _ =>
        cases a
        rw [compute, hfind] at h
        cases h
      | groups gs limit value =>
        rw [compute_of_groups hfind] at h
        obtain ⟨g, -, hg⟩ := Sequencing.exists_error_of_mapM (Sequencing.eq_error_of_map h)
        replace hg := Sequencing.eq_error_of_map hg
        rw [computeEach_eq_mapM] at hg
        obtain ⟨b, hb, hfail⟩ := Sequencing.exists_error_of_mapM hg
        exact ih b hb (hinside b hb) hfail

/-- **Kinds that no record fails.** Aggregations that make sense have results for all records if
they neither read dates nor put keys in order at any depth. -/
theorem exists_computeAll_of_steady {as : List Aggregation} (has : ∀ a ∈ as, a.Valid E now)
    (hsteady : ∀ a ∈ as, ∀ k ∈ a.kinds, k.Steady) (rs : List R) :
    ∃ t, computeAll E now as rs = .ok t := by
  have hadmits : ∀ k : AggregationKind, k.Steady → ∀ rs : List R, k.Admits E now rs := by
    intro k hk rs
    cases k with
    | onField field g => cases g <;> trivial
    | filters _ | named _ => exact hk.elim
  rw [computeAll, Sequencing.exists_ok_map_iff, computeEach_eq_mapM,
    Sequencing.exists_ok_mapM_iff]
  intro a ha
  exact (exists_compute_iff (has a ha) rs).2 fun b rs' hb =>
    hadmits _ (hsteady a ha _ hb.kind_mem) rs'

end Aggregation

end Requests

namespace Aggregation

/-! ## A day without an end -/

/-- The days on the clocks of a zone, with the hours in each of them. -/
def daily (timeZone : String) : Aggregation where
  key := "days"
  kind := .onField "at" (.dateHistogram "1d" none (some timeZone) none)
  aggs :=
    [{ key := "hours", kind := .onField "at" (.dateHistogram "1h" none (some timeZone) none) }]

/-- Records that are an instant in milliseconds. -/
def instants : Evaluator Int := fun millis _ => .ok (.long (Int64.ofInt millis))

section Examples

attribute [local instance] Regions.environment

/-- The days and their hours make sense in every zone. -/
lemma daily_valid (timeZone : String) (now : Instant) :
    (daily timeZone).Valid instants now := by
  intro k hk
  simp only [daily, kinds, kindsAll, List.append_nil, List.mem_cons, List.not_mem_nil,
    or_false] at hk
  rcases hk with rfl | rfl
  · exact ⟨⟨1, .day⟩, rfl⟩
  · exact ⟨⟨1, .hour⟩, rfl⟩

end Examples

end Aggregation

end Sift
