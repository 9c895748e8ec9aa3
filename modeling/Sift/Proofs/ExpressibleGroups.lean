import Sift.Proofs.ResultTexts
import Sift.Proofs.TermBuckets

/-!
# What groups show of records and of requests

The key and the ends of a group come from three places. Some are values of records, which a document
has said already. Some are written for the group: texts, dates and counts. And some are copied from
the request, such as the ends of ranges and the filters. What documents say of records and requests
can be said again. Only the kinds that compute with numbers can show something else, since a sum or
a mean of numbers need not be finite, and there is no mean without places.

## Main definitions

* `Sift.Evaluator.Says`: an evaluator finds only values that a document can say.
* `Sift.AggregationKind.MeasuresFinite`: what a kind computes with numbers is finite.
* `Sift.AggregationKind.LiteralsExpressible`: a document can say what a kind copies from a request.

## Main results

* `Sift.Evaluator.says_json`: the values of documents.
* `Sift.AggregationKind.sublist_of_find`: the records of groups.
* `Sift.AggregationKind.expressible_of_find`: what a kind finds.
* `Sift.SearchRequest.literalsExpressible_of_writable`: the requests of documents.
-/

set_option autoImplicit false

namespace Sift

open Json (WritableTable)

/-! ## Values of records -/

namespace Json

/-- What an element contributes to a list is part of the element. -/
lemma Writable.of_mem_spread {x y : Json} (hx : x.Writable) (hy : y ∈ x.spread) :
    y.Writable := by
  cases hx with
  | null => cases hy
  | arr each => exact each y hy
  | bool _ | int _ _ | double _ | str _ =>
    obtain rfl := List.mem_singleton.1 hy
    constructor <;> assumption
  | obj sorted each =>
    obtain rfl := List.mem_singleton.1 hy
    exact .obj sorted each

/-- What a key finds for the elements of a list can be written if what it finds for each of them
can. -/
lemma writable_of_stepKeyItems {key path : String} {items ys : List Json}
    (hitems : ∀ x ∈ items, ∀ y, stepKey key path x = .ok y → y.Writable)
    (h : stepKeyItems key path items = .ok ys) : ∀ y ∈ ys, y.Writable := by
  induction items generalizing ys with
  | nil =>
    obtain rfl := Except.ok.inj h
    exact nofun
  | cons x rest ih =>
    rw [List.forall_mem_cons] at hitems
    rw [stepKeyItems] at h
    split at h
    · cases h
    · rename_i z hz
      split at h
      · cases h
      · rename_i zs hzs
        obtain rfl := Except.ok.inj h
        exact List.forall_mem_append.2
          ⟨fun y hy => (hitems.1 z hz).of_mem_spread hy, ih hitems.2 hzs⟩

/-- What a key finds in a document with a text has a text. -/
lemma Writable.stepKey {x y : Json} (hx : x.Writable) {key path : String}
    (h : x.stepKey key path = .ok y) : y.Writable := by
  induction hx generalizing y with
  | null =>
    obtain rfl := Except.ok.inj h
    exact .null
  | bool _ | int _ _ | double _ | str _ => cases h
  | arr _ ih =>
    rw [Json.stepKey] at h
    obtain ⟨ys, hys, rfl⟩ := Sequencing.exists_ok_of_map h
    exact .arr (writable_of_stepKeyItems (fun x hx y hy => ih x hx hy) hys)
  | @obj members _ each _ =>
    rw [Json.stepKey] at h
    obtain rfl := Except.ok.inj h
    cases hfind : Table.find? key members with
    | none => exact .null
    | some z => exact WritableTable.find? each hfind

/-- What a position finds in a document with a text has a text. -/
lemma Writable.stepIndex {x y : Json} (hx : x.Writable) {position : Nat} {path : String}
    (h : x.stepIndex position path = .ok y) : y.Writable := by
  cases hx with
  | null =>
    obtain rfl := Except.ok.inj h
    exact .null
  | bool _ | int _ _ | double _ | str _ | obj _ _ => cases h
  | @arr items each =>
    obtain rfl := Except.ok.inj h
    cases hitem : items[position]? with
    | none => exact .null
    | some z => exact each z (List.mem_of_getElem? hitem)

/-- What a path finds in a document with a text has a text. -/
lemma Writable.follow {x y : Json} (hx : x.Writable) {path : String} {segments : List Segment}
    (h : x.follow path segments = .ok y) : y.Writable := by
  induction segments generalizing x with
  | nil =>
    obtain rfl := Except.ok.inj h
    exact hx
  | cons s rest ih =>
    rw [Json.follow] at h
    split at h
    · cases h
    · rename_i z hz
      refine ih ?_ h
      cases s with
      | key k => exact hx.stepKey hz
      | index n => exact hx.stepIndex hz

/-- **Every part of a document with a text has a text.** -/
theorem Writable.atPath {x y : Json} (hx : x.Writable) {path : String}
    (h : x.atPath path = .ok y) : y.Writable := by
  rw [Json.atPath] at h
  split at h
  · cases h
  · exact hx.follow h

end Json

namespace Evaluator

variable {R : Type} {E : Evaluator R} {r : R}

/-- Every value that is found in a record is one that a document can say. -/
def Says (E : Evaluator R) (r : R) : Prop := ∀ path v, E r path = .ok v → v.Expressible

/-- **The values of documents** are values that a document can say. -/
theorem says_json {x : Json} (hx : x.Writable) : json.Says x := by
  intro path v hv
  unfold json encoded at hv
  split at hv
  · rename_i y hy
    obtain rfl := Except.ok.inj hv
    exact Value.expressible_ofJson (hx.atPath hy)
  · cases hv

/-- The values of a field can be said. -/
lemma Says.extract (h : E.Says r) {path : String} {v : Value} (hv : v ∈ E.extract r path) :
    v.Expressible := by
  unfold Evaluator.extract at hv
  split at hv
  · cases hv
  · rename_i items hitems
    cases h path _ hitems with
    | list each => exact each v hv
  · rename_i w _ _ hw
    obtain rfl := List.mem_singleton.1 hv
    exact h path v hw
  · cases hv

/-- The value of a field as a whole can be said. -/
lemma Says.extractValue (h : E.Says r) (path : String) : (E.extractValue r path).Expressible := by
  unfold Evaluator.extractValue
  split
  · rename_i v hv
    exact h path v hv
  · exact .null

end Evaluator

/-! ## What is copied from a request, and what is computed -/

/-- Both coordinates are finite. -/
def GeoPoint.IsFinite (p : GeoPoint) : Prop := p.lat.isFinite = true ∧ p.lon.isFinite = true

namespace Grouping

variable {R : Type} (E : Evaluator R) (field : String) (rs : List R)

/-- The groupings that compute with numbers. -/
def measures : Grouping → Bool
  | histogram .. | stats _ | geoBounds | geoCentroid => true
  | _ => false

/-- What the grouping computes with the numbers of records is there and finite: the figures, the
ends of the intervals that hold a number, the corners around all places, and their mean. -/
def MeasuresFinite : Grouping → Prop
  | stats _ => (Statistics.ofValues
      (rs.flatMap fun r => (E.extract r field).filterMap Value.toDouble?)).Expressible
  | histogram interval offset substitute =>
    let start (y : Double) := slotStart interval (offset.getD (Floating.zero false))
      (slot interval (offset.getD (Floating.zero false)) y)
    ∀ r ∈ rs, ∀ v ∈ valuesOr E field substitute r, ∀ y ∈ v.toDouble?, y.isFinite = true →
      (start y).isFinite = true ∧ ((start y).add interval).isFinite = true
  | geoBounds => ∃ topLeft bottomRight,
      GeoPoint.extent? (rs.flatMap (placesOf E field)) = some (topLeft, bottomRight) ∧
        topLeft.IsFinite ∧ bottomRight.IsFinite
  | geoCentroid => ∃ p, GeoPoint.centroid? (rs.flatMap (placesOf E field)) = some p ∧ p.IsFinite
  | _ => True

/-- A document can say what the grouping copies from a request: the substitute for missing values,
and the ends of ranges of numbers. -/
def LiteralsExpressible : Grouping → Prop
  | terms _ _ _ substitute => ∀ v ∈ substitute, v.Expressible
  | range ranges | geoDistance _ _ ranges => ∀ e ∈ ranges,
      (∀ x ∈ e.lower, x.isFinite = true) ∧ ∀ x ∈ e.upper, x.isFinite = true
  | _ => True

end Grouping

namespace AggregationKind

variable {R : Type}

/-- The kinds that compute with numbers. -/
def measures : AggregationKind → Bool
  | onField _ g => g.measures
  | _ => false

/-- What the kind computes with the numbers of records is there and finite. -/
def MeasuresFinite (E : Evaluator R) (rs : List R) : AggregationKind → Prop
  | onField field g => g.MeasuresFinite E field rs
  | _ => True

/-- A document can say what the kind copies from a request into the results. -/
def LiteralsExpressible : AggregationKind → Prop
  | onField _ g => g.LiteralsExpressible
  | filters fs => ∀ f ∈ fs, f.2.Expressible
  | named _ => True

/-- Where nothing is computed with numbers, nothing infinite is. -/
lemma measuresFinite_of_measures {k : AggregationKind} (hk : k.measures = false)
    (E : Evaluator R) (rs : List R) : k.MeasuresFinite E rs := by
  cases k with
  | onField field g =>
    cases g with
    | histogram _ _ _ | stats _ | geoBounds | geoCentroid => cases hk
    | _ => trivial
  | _ => trivial

end AggregationKind

/-! ## The records of groups -/

namespace Grouping

variable {R : Type} {E : Evaluator R} {now : Instant} {field : String} {rs : List R} {x : Group R}

/-- The records of what is gathered are some of the records, in their order. -/
lemma sublist_of_mem_gather {α κ : Type} [DecidableEq κ] {image : α → κ}
    {entries : List (R × List α)} {e : α × List R} (h : e ∈ Group.gather image entries) :
    e.2.Sublist (entries.map Prod.fst) := by
  obtain ⟨y, -, rfl⟩ := List.mem_map.1 h
  exact List.filter_sublist.map Prod.fst

/-- The records of what is gathered in ascending order are some of the records. -/
lemma sublist_of_mem_gatherAscending {mentioned : R → List Int} {e : Int × List R}
    (h : e ∈ gatherAscending (rs.map fun r => (r, mentioned r))) : e.2.Sublist rs := by
  have hrecords := sublist_of_mem_gather ((Sorting.sort_perm _ _).mem_iff.1 h)
  rwa [List.map_map, Function.comp_def, List.map_id'] at hrecords

/-- The group of an interval of time has the records that it is formed from. -/
lemma records_of_dateGroup {interval : Interval} {zone : Zone} {format : Option String}
    {start : Int} {records : List R} (h : dateGroup interval zone format start records = .ok x) :
    x.records = records := by
  unfold dateGroup at h
  split at h
  · cases h
  · split at h
    · cases h
    · rw [← Except.ok.inj h]

/-- The records of a range of time are some of the records. -/
lemma sublist_of_dateRangeGroup {zone : Zone} {format : Option String} {e : RangeEntry Value}
    (h : dateRangeGroup E now field zone format rs e = .ok x) : x.records.Sublist rs := by
  unfold dateRangeGroup at h
  split at h
  · cases h
  · split at h
    · cases h
    · obtain ⟨inside, hinside, rfl⟩ := Sequencing.exists_ok_of_map h
      exact Query.select_sublist hinside

/-- The records of a cell are some of the records. -/
lemma sublist_of_cellGroups {precision : Nat} {gs : List (Group R)}
    (h : cellGroups E field precision rs = .ok gs) (hx : x ∈ gs) : x.records.Sublist rs := by
  unfold cellGroups at h
  split at h
  · cases h
  · rename_i entries hentries
    obtain rfl := Except.ok.inj h
    obtain ⟨e, he, rfl⟩ := List.mem_map.1 hx
    -- Each record is an entry together with the names of its cells.
    have hrecords : entries.map Prod.fst = rs := by
      refine Sequencing.map_of_mapM hentries fun r entry hentry => ?_
      obtain ⟨names, -, rfl⟩ := Sequencing.exists_ok_of_map hentry
      rfl
    exact hrecords ▸ sublist_of_mem_gather he

variable [Environment]

/-- **The records of a group** of a grouping are some of the records, in their order. -/
theorem sublist_of_find {g : Grouping} {gs : List (Group R)} {limit : Option Nat}
    {value : Option Value} (h : g.find E now field rs = .ok (.groups gs limit value))
    (hx : x ∈ gs) : x.records.Sublist rs := by
  cases g with
  | terms size sort format substitute =>
    obtain ⟨gs', heq, hperm⟩ := exists_sorted_of_find h
    cases heq
    rw [(records_of_termGroups (hperm.mem_iff.1 hx)).2]
    exact List.filter_sublist
  | histogram interval offset substitute =>
    rw [find] at h
    split at h
    · cases h
      obtain ⟨e, he, rfl⟩ := List.mem_map.1 hx
      exact sublist_of_mem_gatherAscending he
    · cases h
  | dateHistogram interval format timeZone substitute =>
    obtain ⟨i, gs', -, heq, hgs⟩ := exists_interval_of_find h
    cases heq
    obtain ⟨start, -, hgroup⟩ := mem_dateIntervalGroups hgs hx
    rw [records_of_dateGroup hgroup]
    exact List.filter_sublist
  | range ranges =>
    cases h
    obtain ⟨e, -, rfl⟩ := List.mem_map.1 hx
    exact List.filter_sublist
  | dateRange format timeZone ranges =>
    obtain ⟨gs', heq, hgs⟩ := exists_ranges_of_find h
    cases heq
    obtain ⟨e, -, hgroup⟩ := hgs x hx
    exact sublist_of_dateRangeGroup hgroup
  | missing =>
    cases h
    obtain rfl := List.mem_singleton.1 hx
    exact List.filter_sublist
  | geoHash precision size =>
    obtain ⟨gs', hs, heq, hgs, hperm⟩ := exists_cellGroups_of_find h
    cases heq
    exact sublist_of_cellGroups hgs (hperm.mem_iff.1 hx)
  | geoDistance origin unit ranges =>
    rw [find] at h
    split at h
    · cases h
    · cases h
      obtain ⟨e, -, rfl⟩ := List.mem_map.1 hx
      exact List.filter_sublist
  | stats _ | geoBounds | geoCentroid => cases h

end Grouping

/-- **The records of a group** of an aggregation are some of the records, in their order. -/
theorem AggregationKind.sublist_of_find {R : Type} [Environment] {E : Evaluator R} {now : Instant}
    {rs : List R} {k : AggregationKind} {gs : List (Group R)} {limit : Option Nat}
    {value : Option Value}
    (h : k.find E now rs = .ok (.groups gs limit value)) {x : Group R} (hx : x ∈ gs) :
    x.records.Sublist rs := by
  cases k with
  | onField field g => exact Grouping.sublist_of_find h hx
  | filters fs =>
    obtain ⟨gs', heq, hgs⟩ := groups_of_filters h
    cases heq
    obtain ⟨name, filter, p, -, -, hselected, -⟩ := hgs x hx
    exact Query.select_sublist hselected
  | named name => cases h

/-! ## What groups show -/

/-- A document can say the group, its records apart. -/
structure Group.Expressible {R : Type} (g : Group R) : Prop where
  /-- The key can be said. -/
  key : g.key.Expressible
  /-- The filter can be said. -/
  query : ∀ q ∈ g.query, q.Expressible
  /-- The lower end can be said, and is not null. -/
  lower : ∀ v ∈ g.lower, v ≠ .null ∧ v.Expressible
  /-- The upper end can be said, and is not null. -/
  upper : ∀ v ∈ g.upper, v ≠ .null ∧ v.Expressible

/-- A document can say what has been found. -/
def Finding.Expressible {R : Type} : Finding R → Prop
  | figures s => s.Expressible
  | single v => v ≠ .null ∧ v.Expressible
  | groups gs _ value => (∀ g ∈ gs, g.Expressible) ∧ ∀ v ∈ value, v ≠ .null ∧ v.Expressible

/-- Groups can be said where there is no value for those without one. -/
lemma Finding.expressible_groups {R : Type} {gs : List (Group R)} {limit : Option Nat}
    (h : ∀ g ∈ gs, g.Expressible) : (Finding.groups gs limit none).Expressible :=
  ⟨h, fun v hv => by cases hv⟩

/-- A group that shows only its key. -/
lemma Group.expressible_of_key {R : Type} {key : Value} {records : List R}
    (h : key.Expressible) : Group.Expressible { key := key, records := records } :=
  ⟨h, fun q hq => (by cases hq), fun v hv => (by cases hv), fun v hv => by cases hv⟩

/-- A place with finite coordinates can be said. -/
lemma GeoPoint.IsFinite.expressible {p : GeoPoint} (h : p.IsFinite) : p.toValue.Expressible := by
  have hkeys : ["lat", "lon"].Pairwise (· < ·) := by decide
  refine .map (Json.sorted_iff_keys.2 hkeys) ?_
  simp only [List.forall_mem_cons, List.not_mem_nil, false_imp_iff, implies_true, and_true]
  exact ⟨.double h.1, .double h.2⟩

namespace Grouping

variable {R : Type} {E : Evaluator R} {now : Instant} {field : String} {rs : List R} {x : Group R}

/-- A value of a record or the substitute for it can be said. -/
lemma expressible_of_mem_valuesOr {substitute : Option Value} {r : R} (hr : E.Says r)
    (hsubstitute : ∀ v ∈ substitute, v.Expressible) {v : Value}
    (hv : v ∈ valuesOr E field substitute r) : v.Expressible := by
  unfold valuesOr at hv
  dsimp only at hv
  split at hv
  · exact hsubstitute v (Option.mem_toList.1 hv)
  · exact hr.extract (List.mem_filter.1 hv).1

/-- The group of a term can be said if the values of records can be said. -/
lemma expressible_of_mem_termGroups {substitute : Option Value} (hrs : ∀ r ∈ rs, E.Says r)
    (hsubstitute : ∀ v ∈ substitute, v.Expressible) (hx : x ∈ termGroups E field substitute rs) :
    x.Expressible := by
  obtain ⟨⟨r, hr, hkey⟩, -⟩ := records_of_termGroups hx
  obtain ⟨e, -, rfl⟩ := List.mem_map.1 hx
  exact ⟨expressible_of_mem_valuesOr (hrs r hr) hsubstitute hkey, nofun, nofun, nofun⟩

/-- The group of an interval of numbers can be said if the ends of the interval are finite. -/
lemma expressible_of_mem_intervalGroups {interval : Double} {offset : Option Double}
    {substitute : Option Value}
    (hfinite : (histogram interval offset substitute).MeasuresFinite E field rs)
    (hx : x ∈ intervalGroups E field interval (offset.getD (Floating.zero false)) substitute rs) :
    x.Expressible := by
  obtain ⟨⟨n, records⟩, he, rfl⟩ := List.mem_map.1 hx
  obtain ⟨⟨r, hr, hn⟩, -⟩ := mem_gather ((Sorting.sort_perm _ _).mem_iff.1 he)
  obtain ⟨v, hv, hslot⟩ := List.mem_filterMap.1 hn
  -- The interval is that of a finite number of a record.
  split at hslot
  · rename_i y hy
    split at hslot
    · rename_i hyfinite
      obtain rfl := Option.some.inj hslot
      obtain ⟨hstart, hend⟩ := hfinite r hr v hv y hy hyfinite
      exact ⟨.double hstart, nofun, fun w hw => Option.some.inj hw ▸ ⟨nofun, .double hstart⟩,
        fun w hw => Option.some.inj hw ▸ ⟨nofun, .double hend⟩⟩
    · cases hslot
  · cases hslot

/-- An instant that is written is a text or a number of milliseconds. -/
lemma expressible_writtenInstant (zone : Zone) (format : Option String) (t : Instant) :
    writtenInstant zone format t ≠ .null ∧ (writtenInstant zone format t).Expressible := by
  unfold writtenInstant
  split
  · exact ⟨nofun, .str _⟩
  · exact ⟨nofun, .long _⟩

/-- The group of an interval of time can be said. -/
lemma expressible_of_dateGroup {interval : Interval} {zone : Zone} {format : Option String}
    {start : Int} {records : List R} (h : dateGroup interval zone format start records = .ok x) :
    x.Expressible := by
  unfold dateGroup at h
  split at h
  · cases h
  · split at h
    · cases h
    · obtain rfl := Except.ok.inj h
      refine ⟨.long _, nofun, fun v hv => ?_, fun v hv => ?_⟩
      · exact Option.some.inj hv ▸ expressible_writtenInstant _ _ _
      · exact Option.some.inj hv ▸ expressible_writtenInstant _ _ _

/-- The group of a range can be said if its ends are finite. -/
lemma expressible_rangeGroup {e : RangeEntry Double} (hlower : ∀ x ∈ e.lower, x.isFinite = true)
    (hupper : ∀ x ∈ e.upper, x.isFinite = true) (numbers : R → List Double) (rs : List R) :
    (rangeGroup e numbers rs).Expressible := by
  refine ⟨.str _, nofun, fun v hv => ?_, fun v hv => ?_⟩
  · obtain ⟨x, hx, rfl⟩ := Option.mem_map.1 hv
    exact ⟨nofun, .double (hlower x hx)⟩
  · obtain ⟨x, hx, rfl⟩ := Option.mem_map.1 hv
    exact ⟨nofun, .double (hupper x hx)⟩

/-- The group of a range of time can be said. -/
lemma expressible_of_dateRangeGroup {zone : Zone} {format : Option String}
    {e : RangeEntry Value} (h : dateRangeGroup E now field zone format rs e = .ok x) :
    x.Expressible := by
  unfold dateRangeGroup at h
  split at h
  · cases h
  · split at h
    · cases h
    · obtain ⟨inside, -, rfl⟩ := Sequencing.exists_ok_of_map h
      refine ⟨.str _, nofun, fun v hv => ?_, fun v hv => ?_⟩
      · obtain ⟨t, -, rfl⟩ := Option.mem_map.1 hv
        exact expressible_writtenInstant _ _ _
      · obtain ⟨t, -, rfl⟩ := Option.mem_map.1 hv
        exact expressible_writtenInstant _ _ _

/-- The group of a cell can be said. -/
lemma expressible_of_cellGroups {precision : Nat} {gs : List (Group R)}
    (h : cellGroups E field precision rs = .ok gs) (hx : x ∈ gs) : x.Expressible := by
  unfold cellGroups at h
  split at h
  · cases h
  · obtain rfl := Except.ok.inj h
    obtain ⟨e, -, rfl⟩ := List.mem_map.1 hx
    exact Group.expressible_of_key (.str _)

variable [Environment]

/-- **What a grouping finds can be said** if the values of the records can be said, if what is
copied from the request can be said, and if what is computed with numbers is finite.

**Proof sketch.** The kinds are taken one by one. Keys are values of records, texts or numbers of
64 bits, and ends are instants that are written, ends that are copied, or ends of intervals. -/
theorem expressible_of_find {g : Grouping} (hrs : ∀ r ∈ rs, E.Says r) (hg : g.LiteralsExpressible)
    (hfinite : g.MeasuresFinite E field rs) {found : Finding R}
    (h : g.find E now field rs = .ok found) : found.Expressible := by
  cases g with
  | terms size sort format substitute =>
    obtain ⟨gs, rfl, hperm⟩ := exists_sorted_of_find h
    refine Finding.expressible_groups fun x hx => ?_
    exact expressible_of_mem_termGroups hrs hg (hperm.mem_iff.1 hx)
  | histogram interval offset substitute =>
    rw [find] at h
    split at h
    · cases h
      exact Finding.expressible_groups fun x hx => expressible_of_mem_intervalGroups hfinite hx
    · cases h
  | dateHistogram interval format timeZone substitute =>
    obtain ⟨i, gs, -, rfl, hgs⟩ := exists_interval_of_find h
    refine Finding.expressible_groups fun x hx => ?_
    obtain ⟨start, -, hgroup⟩ := mem_dateIntervalGroups hgs hx
    exact expressible_of_dateGroup hgroup
  | range ranges =>
    cases h
    refine Finding.expressible_groups fun x hx => ?_
    obtain ⟨e, he, rfl⟩ := List.mem_map.1 hx
    exact expressible_rangeGroup (hg e he).1 (hg e he).2 _ _
  | dateRange format timeZone ranges =>
    obtain ⟨gs, rfl, hgs⟩ := exists_ranges_of_find h
    refine Finding.expressible_groups fun x hx => ?_
    obtain ⟨e, -, hgroup⟩ := hgs x hx
    exact expressible_of_dateRangeGroup hgroup
  | stats format =>
    cases h
    exact hfinite
  | missing =>
    cases h
    refine ⟨fun x hx => ?_, fun v hv => ?_⟩
    · obtain rfl := List.mem_singleton.1 hx
      exact Group.expressible_of_key (.str _)
    · obtain rfl := Option.some.inj hv
      exact ⟨fun h => (by cases h), .long _⟩
  | geoBounds =>
    cases h
    obtain ⟨topLeft, bottomRight, hcorners, htop, hbottom⟩ := hfinite
    have hkeys : ["bottom_right", "top_left"].Pairwise (· < ·) := by decide
    rw [Finding.Expressible, GeoPoint.extentValue, hcorners]
    refine ⟨fun h => (by cases h), .map (Json.sorted_iff_keys.2 hkeys) ?_⟩
    simp only [List.forall_mem_cons, List.not_mem_nil, false_imp_iff, implies_true, and_true]
    exact ⟨hbottom.expressible, htop.expressible⟩
  | geoCentroid =>
    cases h
    obtain ⟨p, hmean, hp⟩ := hfinite
    have hkeys : ["count", "lat", "lon"].Pairwise (· < ·) := by decide
    rw [Finding.Expressible, GeoPoint.centroidValue, hmean]
    refine ⟨fun h => (by cases h), .map (Json.sorted_iff_keys.2 hkeys) ?_⟩
    simp only [List.forall_mem_cons, List.not_mem_nil, false_imp_iff, implies_true, and_true]
    exact ⟨.long _, .double hp.1, .double hp.2⟩
  | geoHash precision size =>
    obtain ⟨gs, hs, rfl, hgs, hperm⟩ := exists_cellGroups_of_find h
    refine Finding.expressible_groups fun x hx => ?_
    exact expressible_of_cellGroups hgs (hperm.mem_iff.1 hx)
  | geoDistance origin unit ranges =>
    rw [find] at h
    split at h
    · cases h
    · cases h
      refine Finding.expressible_groups fun x hx => ?_
      obtain ⟨e, he, rfl⟩ := List.mem_map.1 hx
      exact expressible_rangeGroup (hg e he).1 (hg e he).2 _ _

end Grouping

/-- **What an aggregation finds can be said** if the values of the records can be said, if what is
copied from the request can be said, and if what is computed with numbers is finite. -/
theorem AggregationKind.expressible_of_find {R : Type} [Environment] {E : Evaluator R}
    {now : Instant} {rs : List R} {k : AggregationKind} (hrs : ∀ r ∈ rs, E.Says r)
    (hk : k.LiteralsExpressible)
    (hfinite : k.MeasuresFinite E rs) {found : Finding R} (h : k.find E now rs = .ok found) :
    found.Expressible := by
  cases k with
  | onField field g => exact Grouping.expressible_of_find hrs hk hfinite h
  | filters fs =>
    obtain ⟨gs, rfl, hgs⟩ := groups_of_filters h
    refine ⟨fun x hx => ?_, nofun⟩
    obtain ⟨name, filter, p, hfilter, -, -, hgroup⟩ := hgs x hx
    rw [hgroup]
    exact ⟨.str _, fun q hq => Option.some.inj hq ▸ hk _ hfilter, nofun, nofun⟩
  | named name => cases h

/-! ## Requests of documents -/

namespace Json

/-- The numbers of documents are finite. -/
lemma isFinite_of_double? {x : Json} (hx : x.Writable) {y : Double} (h : x.double? = some y) :
    y.isFinite = true := by
  have hy := (faithful_double.rewrites hx h).writable
  cases hy with
  | double finite => exact finite

end Json

/-- The ends of the ranges of documents are finite. -/
lemma RangeEntry.isFinite_of_ofJson? {x : Json} (hx : x.Writable) {e : RangeEntry Double}
    (h : ofJson? Json.double? x = some e) :
    (∀ y ∈ e.lower, y.isFinite = true) ∧ ∀ y ∈ e.upper, y.isFinite = true := by
  obtain ⟨t, ht, h⟩ := Option.bind_eq_some_iff.1 h
  split at h
  · rename_i hlower hupper
    obtain rfl := Option.some.inj h
    have hfinite : ∀ (x : Json) y, x.Writable → x ≠ .null → x.double? = some y →
        y.isFinite = true :=
      fun _ _ hx _ hy => Json.isFinite_of_double? hx hy
    exact ⟨Json.forall_of_optional hfinite (hx.fields? ht) hlower,
      Json.forall_of_optional hfinite (hx.fields? ht) hupper⟩
  · cases h

/-- What a grouping of a document copies can be said. -/
lemma Grouping.literalsExpressible_of_ofFields? {t : Table Json} (ht : WritableTable t)
    {kind : String} {g : Grouping} (h : ofFields? kind t = some g) : g.LiteralsExpressible := by
  have hranges {ranges : List (RangeEntry Double)}
      (h : Json.required "ranges" (Json.list? (RangeEntry.ofJson? Json.double?)) t = some ranges) :
      ∀ e ∈ ranges, (∀ x ∈ e.lower, x.isFinite = true) ∧ ∀ x ∈ e.upper, x.isFinite = true :=
    Json.of_required (fun _ _ hx h => Json.forall_of_list?
      (fun _ _ hy hye => RangeEntry.isFinite_of_ofJson? hy hye) hx h) ht h
  unfold ofFields? at h
  split at h
  · split at h
    · rename_i hsubstitute
      obtain rfl := Option.some.inj h
      refine Json.forall_of_optional (fun x v hx _ hv => ?_) ht hsubstitute
      exact Option.some.inj hv ▸ Value.expressible_ofJson hx
    · cases h
  · split at h
    · obtain rfl := Option.some.inj h
      trivial
    · cases h
  · split at h
    · obtain rfl := Option.some.inj h
      trivial
    · cases h
  · obtain ⟨ranges, hread, rfl⟩ := Option.map_eq_some_iff.1 h
    exact hranges hread
  · split at h
    · obtain rfl := Option.some.inj h
      trivial
    · cases h
  · obtain ⟨format, -, rfl⟩ := Option.map_eq_some_iff.1 h
    trivial
  · obtain rfl := Option.some.inj h
    trivial
  · obtain rfl := Option.some.inj h
    trivial
  · obtain rfl := Option.some.inj h
    trivial
  · split at h
    · obtain rfl := Option.some.inj h
      trivial
    · cases h
  · split at h
    · rename_i hread
      obtain rfl := Option.some.inj h
      exact hranges hread
    · cases h
  · cases h

/-- What a kind of a document copies can be said. -/
lemma AggregationKind.literalsExpressible_of_ofFields? {t : Table Json} (ht : WritableTable t)
    {k : AggregationKind} (h : ofFields? t = some k) : k.LiteralsExpressible := by
  unfold ofFields? at h
  split at h
  · cases h
  · obtain ⟨fs, hfs, rfl⟩ := Option.map_eq_some_iff.1 h
    obtain ⟨x, hx, hread⟩ := Option.bind_eq_some_iff.1 hfs
    have hwritable := ht.find? hx
    cases hwritable with
    | obj _ each =>
      intro f hf
      obtain ⟨y, hy, hyf⟩ := Json.exists_of_readValues hread hf
      exact (Query.expressible_of_ofJson? (each _ hy)).1 true _ hyf
    | _ => cases hread
  · obtain ⟨name, -, rfl⟩ := Option.map_eq_some_iff.1 h
    trivial
  · split at h
    · rename_i hg
      obtain rfl := Option.some.inj h
      exact Grouping.literalsExpressible_of_ofFields? ht hg
    · cases h

/-- What holds of every kind that is read from a document with a text, holds of the kinds at every
depth of an aggregation that is read from one, and of those of a list of aggregations.

**Proof sketch.** Induction on the document. The aggregations inside another one are elements of a
list that is a member of its object, so that such lists are carried along. -/
theorem Aggregation.forall_kinds_of_ofJson? {P : AggregationKind → Prop}
    (hP : ∀ t k, WritableTable t → AggregationKind.ofFields? t = some k → P k) {x : Json}
    (hx : x.Writable) :
    (∀ a, ofJson? x = some a → ∀ k ∈ a.kinds, P k) ∧
      ∀ as, list? x = some as → ∀ a ∈ as, ∀ k ∈ a.kinds, P k := by
  induction hx with
  | null | bool _ | int _ _ | double _ | str _ =>
    exact ⟨fun a h => (by cases h), fun as h => by cases h⟩
  | arr _ ih =>
    refine ⟨fun a h => (by cases h), fun as has a ha => ?_⟩
    rw [list?_eq] at has
    obtain ⟨y, hy, hya⟩ := Json.exists_of_readAll has ha
    exact (ih y hy).1 a hya
  | @obj members _ each ih =>
    refine ⟨fun a h => ?_, fun as h => by cases h⟩
    replace h : assemble? members (inner? members) = some a := h
    rw [inner?_eq_defaulted] at h
    unfold assemble? at h
    split at h
    · rename_i hkind haggs _ _
      obtain rfl := Option.some.inj h
      rw [kinds_eq, List.forall_mem_cons, List.forall_mem_flatMap]
      refine ⟨hP members _ each hkind, ?_⟩
      rw [Json.defaulted] at haggs
      split at haggs
      · obtain rfl := Option.some.inj haggs
        exact List.forall_mem_nil _
      · rename_i y hy
        exact (ih _ (Table.mem_of_find? hy)).2 _ ((list?_eq y).trans haggs)
    · cases h

/-- **What a request of a document copies into its results can be said**, at every depth of its
aggregations. -/
theorem SearchRequest.literalsExpressible_of_writable {j : Json} (hj : j.Writable)
    {r : SearchRequest} (h : ofJson? j = some r) :
    ∀ a ∈ r.aggs, ∀ k ∈ a.kinds, k.LiteralsExpressible := by
  obtain ⟨t, ht, h⟩ := Option.bind_eq_some_iff.1 h
  have hwritable := hj.fields? ht
  unfold ofFields? at h
  split at h
  · rename_i haggs _
    obtain rfl := Option.some.inj h
    refine Json.forall_of_defaulted (P := fun as => ∀ a ∈ as, ∀ k ∈ a.kinds, k.LiteralsExpressible)
      nofun (fun x hx has => ?_) hwritable haggs
    refine (Aggregation.forall_kinds_of_ofJson? (fun t k ht hk => ?_) hx).2 _
      ((Aggregation.list?_eq x).trans has)
    exact AggregationKind.literalsExpressible_of_ofFields? ht hk
  · cases h

end Sift
