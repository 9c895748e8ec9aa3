import Mathlib.Data.List.Nodup
import Sift.Proofs.DateExpressions
import Sift.Proofs.IntervalTiling
import Sift.Proofs.RangeBuckets
import Sift.Proofs.TermBuckets

/-!
# Buckets of dates and their names

The name of a bucket of dates stands for a query with two ends. For an interval of time they are the
start of the interval and what a date expression makes of it, and for a range the ends of the range.
The bucket counts the records whose date has this start, with those without a value if the
substitute for them has it, or the records with a date in the range. In time zones that always keep
the same distance from UTC, the dates that are counted are those between the two ends.

## Main definitions

* `Sift.DateSpan`: what the bucket of an aggregation of dates stands for.
* `Sift.DateSpan.counts`, `Sift.DateSpan.selects`: the two judgments of a record.
* `Sift.DateSpan.Astray`: the records that are judged in two ways.

## Main results

* `Sift.DateSpan.selects_eq_counts_iff`: the two judgments of one record.
* `Sift.Grouping.dateSlot?_fixed_iff`: the dates of an interval with a fixed distance from UTC.
* `Sift.Vocabulary.date_bucket_iff`: what a bucket counts and what its name selects.
-/

set_option autoImplicit false

namespace Sift

/-- What the bucket of an aggregation of dates stands for. -/
inductive DateSpan where
  /-- The dates of an interval with a start, with what stands for missing values, and the end. -/
  | interval (i : Interval) (zone : Zone) (substitute : Option Value) (start stop : Instant)
  /-- The dates between two ends, each of which may be open. -/
  | range (zone : Zone) (lower upper : Option Instant)

namespace DateSpan

open Grouping

/-- The date of a record value in milliseconds, if it has one that can be computed. -/
def millisIn? (zone : Zone) (v : Value) : Option Int :=
  match recordMillis? zone v with
  | .ok millis => millis
  | .error _ => none

/-- Whether each end is met by some date among values. -/
def meets (zone : Zone) (lower upper : Option Instant) (vs : List Value) : Bool :=
  let dates := vs.filterMap (millisIn? zone)
  (lower.all fun t => dates.any fun n => t.millis ≤ n) &&
    upper.all fun t => dates.any fun n => n < t.millis

/-- Whether the bucket counts a record with the given values. -/
def counts : DateSpan → List Value → Bool
  | interval i zone substitute start _, vs =>
    let values := vs.filter fun v => !v.isNull
    (if values.isEmpty then substitute.toList else values).any (startsAt i zone start.millis)
  | range zone lower upper, vs => (vs.filterMap (millisIn? zone)).any (between lower upper)

/-- Whether the name of the bucket selects a record with the given values. -/
def selects : DateSpan → List Value → Bool
  | interval _ zone _ start stop, vs => meets zone (some start) (some stop) vs
  | range zone lower upper, vs => meets zone lower upper vs

/-- Values that are judged in two ways. -/
inductive Astray : DateSpan → List Value → Prop where
  /-- No value, where the substitute for it belongs to the interval. -/
  | substituted {i : Interval} {zone : Zone} {substitute : Option Value} {start stop : Instant}
      {v : Value} (mem : v ∈ substitute) (slot : dateSlot? i zone v = .ok (some start.millis)) :
      Astray (interval i zone substitute start stop) []
  /-- No value, where the range is open at both ends. -/
  | unbounded {zone : Zone} : Astray (range zone none none) []
  /-- A date between the start and the end that belongs to another interval, or one of the interval
  that is not between them. -/
  | misplaced {i : Interval} {zone : Zone} {substitute : Option Value} {start stop : Instant}
      {n : Int64} (slot : dateSlot? i zone (.long n) = .ok (some start.millis) ↔
        ¬ (start.millis ≤ n.toInt ∧ n.toInt < stop.millis)) :
      Astray (interval i zone substitute start stop) [.long n]

variable {span : DateSpan} {vs : List Value}

/-- A single date meets both ends if it lies between them. -/
lemma meets_singleton (zone : Zone) (lower upper : Option Instant) (n : Int64) :
    meets zone lower upper [.long n] = between lower upper n.toInt := by
  have hdates : [Value.long n].filterMap (millisIn? zone) = [n.toInt] := rfl
  rw [meets, hdates]
  simp only [List.any_cons, List.any_nil, Bool.or_false]
  rfl

/-- **One record.** The two judgments of a record with at most one date, in milliseconds, agree
exactly if its values are not astray. -/
theorem selects_eq_counts_iff (hvs : vs = [] ∨ ∃ n : Int64, vs = [.long n]) :
    span.selects vs = span.counts vs ↔ ¬ span.Astray vs := by
  rcases hvs with rfl | ⟨n, rfl⟩
  · cases span with
    | interval i zone substitute start stop =>
      have hselects : selects (interval i zone substitute start stop) [] = false := rfl
      have hcounts : counts (interval i zone substitute start stop) [] =
          substitute.toList.any (startsAt i zone start.millis) := rfl
      rw [hselects, hcounts, eq_comm, ← Bool.not_eq_true, not_iff_not, List.any_eq_true]
      constructor
      · rintro ⟨v, hv, hslot⟩
        exact .substituted (Option.mem_toList.1 hv) (startsAt_iff.1 hslot)
      · rintro ⟨hv, hslot⟩
        exact ⟨_, Option.mem_toList.2 hv, startsAt_iff.2 hslot⟩
    | range zone lower upper =>
      have hcounts : counts (range zone lower upper) [] = false := rfl
      have hselects : selects (range zone lower upper) [] = (lower.isNone && upper.isNone) := by
        cases lower <;> cases upper <;> rfl
      rw [hselects, hcounts, ← Bool.not_eq_true, not_iff_not, Bool.and_eq_true,
        Option.isNone_iff_eq_none, Option.isNone_iff_eq_none]
      constructor
      · rintro ⟨rfl, rfl⟩
        exact .unbounded
      · rintro ⟨⟩
        exact ⟨rfl, rfl⟩
  · cases span with
    | interval i zone substitute start stop =>
      have hselects : selects (interval i zone substitute start stop) [.long n] =
          decide (start.millis ≤ n.toInt ∧ n.toInt < stop.millis) := by
        rw [selects, meets_singleton, Bool.decide_and]
        rfl
      have hcounts : counts (interval i zone substitute start stop) [.long n] =
          startsAt i zone start.millis (.long n) := Bool.or_false _
      rw [hselects, hcounts, Bool.eq_iff_iff, decide_eq_true_iff, startsAt_iff]
      constructor
      · intro h hastray
        cases hastray with
        | misplaced hslot => exact iff_not_self (h.trans hslot)
      · intro h
        by_contra hne
        exact h (.misplaced (not_iff.1 hne).symm)
    | range zone lower upper =>
      refine iff_of_true ?_ nofun
      have hcounts : counts (range zone lower upper) [.long n] = between lower upper n.toInt :=
        Bool.or_false _
      rw [selects, meets_singleton, hcounts]

end DateSpan

/-! ## What settings say -/

namespace Grouping

/-- Aggregations by dates in a time zone. -/
inductive Dated (timeZone : Option String) : Grouping → Prop where
  | intervals (text : String) (format : Option String) (substitute : Option Value) :
      Dated timeZone (dateHistogram text format timeZone substitute)
  | ranges (format : Option String) (ranges : List (RangeEntry Value)) :
      Dated timeZone (dateRange format timeZone ranges)

/-- What the bucket with a key stands for. -/
inductive Spans [Environment] (now : Instant) : Grouping → Value → DateSpan → Prop where
  /-- The interval that starts at the milliseconds of the key. -/
  | interval {text : String} {format timeZone : Option String} {substitute : Option Value}
      {i : Interval} {n : Int64} {t : Instant} {x : ZonedTime} (parse : Interval.parse text = .ok i)
      (start : Instant.ofMillis? n.toInt = some t)
      (stop : i.unit.add ((Zone.ofIdOrUtc timeZone).localize t) i.count.toInt
        (Zone.ofIdOrUtc timeZone) = .ok x) :
      Spans now (dateHistogram text format timeZone substitute) (.long n)
        (.interval i (Zone.ofIdOrUtc timeZone) substitute t x.instant)
  /-- The range that the key names. -/
  | range {format timeZone : Option String} {ranges : List (RangeEntry Value)}
      {e : RangeEntry Value} (mem : e ∈ ranges) {lower upper : Option Instant}
      (start : boundInstant? now (Zone.ofIdOrUtc timeZone) e.lower = .ok lower)
      (stop : boundInstant? now (Zone.ofIdOrUtc timeZone) e.upper = .ok upper) :
      Spans now (dateRange format timeZone ranges) (.str (e.bucketKey Value.toText))
        (.range (Zone.ofIdOrUtc timeZone) lower upper)

variable {R : Type} {E : Evaluator R} {now : Instant} {field : String} {rs : List R}
  {zone : Zone} {i : Interval} {t : Instant} {timeZone : Option String} {g : Grouping}

/-! ## Groups -/

/-- A value has a slot if its date has the start of the interval. -/
lemma dateSlot?_eq_some_iff (ht : t.InMillis) {v : Value} :
    dateSlot? i zone v = .ok (some t.millis) ↔
      ∃ n u, recordMillis? zone v = .ok (some n) ∧ Instant.ofMillis? n = some u ∧
        i.bucketStart u zone = .ok t := by
  unfold dateSlot?
  constructor
  · intro h
    split at h
    · cases h
    · rename_i millis hmillis
      split at h
      · rename_i u hu
        obtain ⟨n, rfl, hn⟩ := Option.bind_eq_some_iff.1 hu
        obtain ⟨s, hs, heq⟩ := Sequencing.exists_ok_of_map h
        obtain ⟨s, rfl, hmillis'⟩ := Option.map_eq_some_iff.1 heq
        replace hs := DateError.settle_eq_some_iff.1 hs
        have hsame := (Interval.inMillis_of_bucketStart hs).ofMillis?_millis
        rw [hmillis', ht.ofMillis?_millis] at hsame
        exact ⟨n, u, hmillis, hn, Option.some.inj hsame ▸ hs⟩
      · cases h
  · rintro ⟨n, u, hmillis, hn, hs⟩
    simp only [hmillis, Option.bind_some, hn, hs]
    rfl

/-- **Fixed distances from UTC.** In a zone that always keeps the same distance from UTC, the dates
of an interval are those between its start and its end. -/
theorem dateSlot?_fixed_iff {offset : Int} (hcount : 0 < i.count.toInt)
    (hoffset : -86400 < offset ∧ offset < 86400) (ht : t.InMillis) {v : Value}
    (hv : dateSlot? i (.fixed offset) v = .ok (some t.millis)) {x : ZonedTime}
    (hx : i.unit.add ((Zone.fixed offset).localize t) i.count.toInt (.fixed offset) = .ok x)
    (n : Int64) : dateSlot? i (.fixed offset) (.long n) = .ok (some t.millis) ↔
      t.millis ≤ n.toInt ∧ n.toInt < x.instant.millis := by
  obtain ⟨m, u, -, hm, hstart⟩ := (dateSlot?_eq_some_iff ht).1 hv
  rw [← Interval.bucketStart_iff_between hcount hoffset
    (Instant.inMillis_of_ofMillis? hm).nanos_lt hstart hx n.toInt, dateSlot?_eq_some_iff ht]
  have hlong : ∀ k, recordMillis? (.fixed offset) (.long n) = .ok (some k) ↔ k = n.toInt :=
    fun k => ⟨fun h => (Option.some.inj (Except.ok.inj h)).symm, fun h => h ▸ rfl⟩
  simp only [hlong, exists_and_left, exists_eq_left]

/-- A record is asked for a date in a range until one is found, and the answer is right. -/
lemma any_of_someBetween {lower upper : Option Instant} {vs : List Value} {b : Bool}
    (h : someBetween zone lower upper vs = .ok b) :
    (vs.filterMap (DateSpan.millisIn? zone)).any (between lower upper) = b := by
  have hvalue : ∀ {v b},
      (recordMillis? zone v).map (fun millis => millis.any (between lower upper)) = .ok b →
        (DateSpan.millisIn? zone v).any (between lower upper) = b := by
    intro v b hv
    obtain ⟨millis, hmillis, rfl⟩ := Sequencing.exists_ok_of_map hv
    rw [DateSpan.millisIn?, hmillis]
  rw [List.any_filterMap]
  cases b with
  | true =>
    obtain ⟨v, hv, hmatch⟩ := Sequencing.exists_of_anyM h
    refine List.any_eq_true.2 ⟨v, hv, ?_⟩
    have hany := hvalue hmatch
    cases hmillis : DateSpan.millisIn? zone v with
    | none => rw [hmillis] at hany; cases hany
    | some n => rw [hmillis] at hany; exact hany
  | false =>
    refine List.any_eq_false.2 fun v hv => ?_
    have hany := hvalue (Sequencing.anyM_eq_false_iff.1 h v hv)
    cases hmillis : DateSpan.millisIn? zone v with
    | none => exact Bool.false_ne_true
    | some n => rw [hmillis] at hany; exact ne_true_of_eq_false hany

variable [Environment]

/-- The group of an interval has the records that its bucket counts. -/
lemma exists_span_of_interval {text : String} {format : Option String}
    {substitute : Option Value} {gs : List (Group R)} (hparse : Interval.parse text = .ok i)
    (hgroups : dateIntervalGroups E field i (Zone.ofIdOrUtc timeZone) format substitute rs = .ok gs)
    {group : Group R} (hgroup : group ∈ gs) :
    ∃ span, (dateHistogram text format timeZone substitute).Spans now group.key span ∧
      group.records = rs.filter (fun r => span.counts (E.extract r field)) ∧
      ∀ offset, Zone.ofIdOrUtc timeZone = .fixed offset → ∀ n, ¬ span.Astray [.long n] := by
  obtain ⟨start, ⟨r, hr, v, hv, hslot⟩, hgroup⟩ := mem_dateIntervalGroups hgroups hgroup
  unfold dateGroup at hgroup
  split at hgroup
  · cases hgroup
  · rename_i t ht
    split at hgroup
    · cases hgroup
    · rename_i x hx
      obtain rfl := Except.ok.inj hgroup
      obtain rfl := Instant.millis_of_ofMillis? ht
      have hmillis := Instant.inMillis_of_ofMillis? ht
      have hkey := hmillis.valid.toInt_ofInt_millis
      refine ⟨_, .interval hparse (hkey.symm ▸ ht) hx, rfl, ?_⟩
      intro offset hoffset n hastray
      cases hastray with
      | misplaced hmisplaced =>
        rw [hoffset] at hx hslot hmisplaced
        have hbetween := dateSlot?_fixed_iff (Interval.count_pos_of_parse hparse)
          (Zone.moderate_of_ofIdOrUtc hoffset) hmillis hslot hx n
        exact iff_not_self (hbetween.symm.trans hmisplaced)

/-- The group of a range has the records that its bucket counts. -/
lemma exists_span_of_range {format : Option String} {ranges : List (RangeEntry Value)}
    {e : RangeEntry Value} (he : e ∈ ranges) {group : Group R}
    (hgroup : dateRangeGroup E now field (Zone.ofIdOrUtc timeZone) format rs e = .ok group) :
    ∃ span, (dateRange format timeZone ranges).Spans now group.key span ∧
      group.records = rs.filter (fun r => span.counts (E.extract r field)) ∧
      ∀ offset, Zone.ofIdOrUtc timeZone = .fixed offset → ∀ n, ¬ span.Astray [.long n] := by
  unfold dateRangeGroup at hgroup
  split at hgroup
  · cases hgroup
  · rename_i lower hlower
    split at hgroup
    · cases hgroup
    · rename_i upper hupper
      obtain ⟨inside, hinside, rfl⟩ := Sequencing.exists_ok_of_map hgroup
      refine ⟨_, .range he hlower hupper, ?_, fun _ _ _ h => nomatch h⟩
      obtain ⟨hanswers, rfl⟩ := Query.select_eq_ok_iff.1 hinside
      refine List.filter_congr fun r hr => ?_
      obtain ⟨b, hb⟩ := hanswers r hr
      rw [DateSpan.counts, any_of_someBetween hb]
      cases b <;> simp [Query.Selects, hb]

/-- **Groups of dates.** The group of a bucket of dates has the records that the bucket counts, and
with a fixed distance from UTC no date is judged in two ways. -/
theorem exists_span_of_mem {gs : List (Group R)} {limit : Option Nat} {value : Option Value}
    (hg : g.Dated timeZone) (hfind : g.find E now field rs = .ok (.groups gs limit value))
    {group : Group R} (hgroup : group ∈ gs) :
    ∃ span, g.Spans now group.key span ∧
      group.records = rs.filter (fun r => span.counts (E.extract r field)) ∧
      ∀ offset, Zone.ofIdOrUtc timeZone = .fixed offset → ∀ n, ¬ span.Astray [.long n] := by
  cases hg with
  | intervals text format substitute =>
    obtain ⟨i, found, hparse, heq, hgroups⟩ := exists_interval_of_find hfind
    obtain ⟨rfl, -, -⟩ := Finding.groups.inj heq
    exact exists_span_of_interval hparse hgroups hgroup
  | ranges format ranges =>
    obtain ⟨found, heq, hgroups⟩ := exists_ranges_of_find hfind
    obtain ⟨rfl, -, -⟩ := Finding.groups.inj heq
    obtain ⟨e, he, hentry⟩ := hgroups group hgroup
    exact exists_span_of_range he hentry

/-! ## Names -/

omit [Environment] in
/-- A bound that is an instant becomes a limit, with which milliseconds compare as with the
instant. -/
lemma exists_resolveDate (hnow : now.Valid) {v : Value} (h : boundInstant now zone v = .ok t) :
    ∃ limit, v.resolveDate now false zone = .ok limit ∧
      ∀ n : Int64, (Value.long n).compareBound limit = compare n.toInt t.millis := by
  unfold boundInstant at h
  split at h
  · rename_i s
    have heval : DateExpression.evaluate s now false zone = .ok t := Sequencing.eq_ok_of_mapError h
    have hvalid := DateExpression.valid_of_evaluate hnow heval
    refine ⟨.long (Int64.ofInt t.millis), ?_, fun n => ?_⟩
    · rw [Value.resolveDate, heval]
      rfl
    · show compare n.toInt (Int64.ofInt t.millis).toInt = _
      rw [hvalid.toInt_ofInt_millis]
  · rename_i hstr
    refine ⟨v, ?_, fun n => ?_⟩
    · unfold Value.resolveDate
      split
      · exact absurd rfl (hstr _)
      · rfl
    · split at h
      · rename_i hbound
        obtain rfl := Except.ok.inj h
        obtain ⟨m, hm, ht⟩ := Option.bind_eq_some_iff.1 hbound
        rw [Value.compareBound, hm, Instant.millis_of_ofMillis? ht]
      · cases h

omit [Environment] in
/-- An end is open, or it is an instant. -/
lemma boundInstant?_eq_ok_iff {bound : Option Value} {o : Option Instant} :
    boundInstant? now zone bound = .ok o ↔ (bound = none ∧ o = none) ∨
      ∃ v t, bound = some v ∧ boundInstant now zone v = .ok t ∧ o = some t := by
  cases bound with
  | none => simp [boundInstant?, eq_comm]
  | some v => cases h : boundInstant now zone v <;> simp [boundInstant?, h, Except.map, eq_comm]

omit [Environment] in
/-- A bound becomes a limit that milliseconds meet if they are on its side of the instant, and an
open end becomes none. -/
lemma exists_limits_of_bound (hnow : now.Valid) {s : BoundSide} (hs : s.roundsUp = false)
    {bound : Option Value} {o : Option Instant} (h : boundInstant? now zone bound = .ok o) :
    ∃ limits, ((bound.map fun v => (s, v)).toList.mapM fun (s, v) =>
        (v.resolveDate now s.roundsUp zone).map fun limit => (s, limit)) = .ok limits ∧
      ∀ vs, (vs = [] ∨ ∃ n : Int64, vs = [.long n]) → Value.meetLimits limits vs =
        o.all fun t => (vs.filterMap (DateSpan.millisIn? zone)).any fun n =>
          s.accepts (compare n t.millis) := by
  rcases boundInstant?_eq_ok_iff.1 h with ⟨rfl, rfl⟩ | ⟨v, t, rfl, hv, rfl⟩
  · exact ⟨[], rfl, fun _ _ => rfl⟩
  · obtain ⟨limit, hlimit, hcompare⟩ := exists_resolveDate hnow hv
    refine ⟨[(s, limit)], ?_, ?_⟩
    · rw [Option.map_some, Option.toList_some, Sequencing.mapM_cons]
      dsimp only
      rw [hs, hlimit]
      rfl
    · rintro vs (rfl | ⟨n, rfl⟩)
      · rfl
      · have hdate : [Value.long n].filterMap (DateSpan.millisIn? zone) = [n.toInt] := rfl
        simp only [Value.meetLimits, hdate, List.all_cons, List.all_nil, List.any_cons,
          List.any_nil, Bool.or_false, Bool.and_true, Option.all_some, hcompare]

omit [Environment] in
/-- Two bounds become limits that dates in milliseconds meet if they meet both ends. -/
lemma exists_dateLimits_between (hnow : now.Valid) {lo hi : Option Value}
    {lower upper : Option Instant} (hlo : boundInstant? now zone lo = .ok lower)
    (hhi : boundInstant? now zone hi = .ok upper) :
    ∃ limits, Condition.dateLimits now zone { gte := lo, lt := hi } = .ok limits ∧
      ∀ vs, (vs = [] ∨ ∃ n : Int64, vs = [.long n]) →
        Value.meetLimits limits vs = DateSpan.meets zone lower upper vs := by
  have hgte : ∀ n m : Int, BoundSide.gte.accepts (compare n m) = decide (m ≤ n) := by
    have haccepts : ∀ o, BoundSide.gte.accepts o = decide (o ≠ .lt) := by decide
    intro n m
    rw [haccepts, decide_eq_decide, Ne, compare_lt_iff_lt, not_lt]
  have hlt : ∀ n m : Int, BoundSide.lt.accepts (compare n m) = decide (n < m) := by
    have haccepts : ∀ o, BoundSide.lt.accepts o = decide (o = .lt) := by decide
    intro n m
    rw [haccepts, decide_eq_decide, compare_lt_iff_lt]
  obtain ⟨uppers, huppers, hmeets⟩ := exists_limits_of_bound hnow (s := .lt) rfl hhi
  obtain ⟨lowers, hlowers, hmeets'⟩ := exists_limits_of_bound hnow (s := .gte) rfl hlo
  have hlimits : ({ gte := lo, lt := hi } : Bounds).limits =
      (hi.map fun v => (BoundSide.lt, v)).toList ++ (lo.map fun v => (.gte, v)).toList := by
    cases lo <;> cases hi <;> rfl
  refine ⟨uppers ++ lowers, ?_, fun vs hvs => ?_⟩
  · rw [Condition.dateLimits, hlimits, List.mapM_append, huppers, hlowers]
    rfl
  · have hall : Value.meetLimits (uppers ++ lowers) vs =
        (Value.meetLimits uppers vs && Value.meetLimits lowers vs) := List.all_append
    rw [hall, hmeets vs hvs, hmeets' vs hvs, Bool.and_comm, DateSpan.meets]
    simp only [hgte, hlt]

/-- A query for a range of dates selects the records whose date meets both ends. -/
lemma compile_dateRange (hnow : now.Valid) {lo hi : Option Value} {lower upper : Option Instant}
    {tz : Option String} (hlo : boundInstant? now (Zone.ofIdOrUtc tz) lo = .ok lower)
    (hhi : boundInstant? now (Zone.ofIdOrUtc tz) hi = .ok upper) (E : Evaluator R)
    (field : String) :
    ∃ p, (Query.leaf field (.dateRange { gte := lo, lt := hi } tz)).compile E now = .ok p ∧
      ∀ r, (E.extract r field = [] ∨ ∃ n : Int64, E.extract r field = [.long n]) →
        p r = .ok (DateSpan.meets (Zone.ofIdOrUtc tz) lower upper (E.extract r field)) := by
  obtain ⟨limits, hlimits, hmeets⟩ := exists_dateLimits_between hnow hlo hhi
  refine ⟨fun r => Condition.datesWithin (Zone.ofIdOrUtc tz) limits (E.extract r field), ?_, ?_⟩
  · simp only [Query.compile, Condition.compile, hlimits]
  · intro r hr
    -- Milliseconds are dates as they stand.
    have hdates : (E.extract r field).mapM (Value.recordDate (Zone.ofIdOrUtc tz)) =
        .ok (E.extract r field) := by
      rcases hr with hr | ⟨n, hr⟩ <;> (rw [hr]; rfl)
    dsimp only [Condition.datesWithin]
    rw [hdates, ← hmeets _ hr]
    rfl

/-- **Names of buckets of dates.** The name of a bucket stands for a query that selects the records
whose date meets both ends, if the query takes dates in the zone of the aggregation and the key is
not read as a year. -/
theorem Spans.exists_selection {key : Value} {span : DateSpan} (h : g.Spans now key span)
    (hg : g.Dated timeZone) (hkeys : g.bucketKeys.Nodup) (hnow : now.Valid)
    {caller : Option String}
    (hzone : Zone.ofIdOrUtc (timeZone.or caller) = Zone.ofIdOrUtc timeZone)
    (hlength : ∀ n, key = .long n → (toString n.toInt).length ≠ 4) (name field : String) :
    ∃ sel p, g.selection name field key caller = .ok sel ∧ sel.compile E now = .ok p ∧
      ∀ r, (E.extract r field = [] ∨ ∃ n : Int64, E.extract r field = [.long n]) →
        p r = .ok (span.selects (E.extract r field)) := by
  cases h with
  | @interval text format _ substitute i n t x hparse hstart hstop =>
    cases hg
    have hlo : boundInstant? now (Zone.ofIdOrUtc timeZone) (some (.long n)) = .ok (some t) := by
      have hlong : ((Value.long n).toLong?.bind fun n => Instant.ofMillis? n.toInt) = some t :=
        hstart
      rw [boundInstant?, boundInstant, hlong]
      · rfl
      · exact nofun
    have hhi : boundInstant? now (Zone.ofIdOrUtc timeZone)
        (some (.str (toString n.toInt ++ "||" ++ i.step))) = .ok (some x.instant) := by
      rw [boundInstant?, boundInstant, DateExpression.evaluate_epoch
        (Interval.count_pos_of_parse hparse) (hlength n rfl) hstart false, hstop]
      rfl
    obtain ⟨p, hp, hmeets⟩ := compile_dateRange hnow (hzone.symm ▸ hlo) (hzone.symm ▸ hhi) E field
    refine ⟨_, p, ?_, hp, fun r hr => ?_⟩
    · rw [selection, hparse]
      rfl
    · rw [hmeets r hr, hzone]
      rfl
  | @range format _ ranges e he lower upper hlo hhi =>
    cases hg
    have hsingle : ∀ e' ∈ ranges, e'.bucketKey Value.toText = e.bucketKey Value.toText → e' = e :=
      fun e' he' hkey => List.inj_on_of_nodup_map hkeys he' he hkey
    obtain ⟨p, hp, hmeets⟩ := compile_dateRange hnow (hzone.symm ▸ hlo) (hzone.symm ▸ hhi) E field
    refine ⟨_, p, ?_, hp, fun r hr => ?_⟩
    · rw [selection, Value.toText, RangeEntry.boundsOfKey?_eq he hsingle, Option.map_id, id, id]
    · rw [hmeets r hr, hzone]
      rfl

end Grouping

namespace Vocabulary

variable {R : Type} [Environment] {E : Evaluator R} {now : Instant} {v : Vocabulary}
  {name field : String} {d : Aggregation} {g : Grouping} {timeZone : Option String}

/-- **Buckets of dates and their names.** If a request asks for a name for dates, a bucket counts
the records of the request in the span that its key stands for, and its name finds as many records
of the request as there are between the ends of the span, in any order that sort keys put the
records in. This is so if the query takes dates in the zone of the aggregation, the key is not read
as a year, and records have at most one date, in milliseconds. Both are then the same records
exactly if the values of no record are astray, and in zones with a fixed distance from UTC no date
is.

**Proof sketch.** The bucket is a group of the records of the request, whose key is the start of an
interval or names a range. The name stands for a query with the two ends of the span, since
milliseconds and the step of an interval denote the end of the interval, and both judgments look at
one record at a time. With a fixed distance from UTC, the intervals can be numbered, and the dates
of an interval are those from its start to the start of the next one. -/
theorem date_bucket_iff (hqueries : Table.find? name v.queries = none)
    (hd : Table.find? name v.aggregations = some d) (hkind : d.kind = .onField field g)
    (hg : g.Dated timeZone) (hkeys : g.bucketKeys.Nodup) (hnow : now.Valid) {a : Aggregation}
    (ha : a.kind = .named name) {r r' : SearchRequest} (hr : a ∈ r.aggs)
    (honly : ∀ a' ∈ r.aggs, a'.key = a.key → a' = a) {s s₁ : Store R} {result : SearchResult R}
    (hsearch : (v.decorate (Store.backend E now)).search r s = (.ok result, s₁))
    {found : AggregationResult} (hfound : Table.find? a.key result.aggs = some found)
    {bs : List Bucket} (hbs : found.buckets = some bs) {b : Bucket} (hb : b ∈ bs)
    (hzone : Zone.ofIdOrUtc (timeZone.or r.timeZone?) = Zone.ofIdOrUtc timeZone)
    (hlength : ∀ n, b.key = .long n → (toString n.toInt).length ≠ 4)
    (hvalues : ∀ x ∈ s.records,
      E.extract x field = [] ∨ ∃ n : Int64, E.extract x field = [.long n])
    (hparams : r'.params = r.params)
    (hquery : r'.query =
      some (r.query.elim (.named name b.key) fun q => .and [q, .named name b.key]))
    (haggs : r'.aggs = [])
    (hsorts : Sorting.Sortable (SortKey.compareRecords E (r'.sorts.map v.sortKey)) s.records) :
    ∃ rs span, v.matching E now r s = .ok rs ∧ g.Spans now b.key span ∧
      b.count = (rs.filter fun x => span.counts (E.extract x field)).length ∧
      (∃ result', (v.decorate (Store.backend E now)).search r' s₁ = (.ok result', s₁) ∧
        result'.totalItems = (rs.filter fun x => span.selects (E.extract x field)).length) ∧
      ((∀ x ∈ rs, span.selects (E.extract x field) = span.counts (E.extract x field)) ↔
        ∀ x ∈ rs, ¬ span.Astray (E.extract x field)) ∧
      ∀ offset, Zone.ofIdOrUtc timeZone = .fixed offset → ∀ n, ¬ span.Astray [.long n] := by
  obtain ⟨rfl, rs, gs, limit, value, hrs, hfind, group, hgroup, hgkey,
    hgcount⟩ := exists_group_of_named hd ha hr honly hsearch hfound hbs hb
  have hmatched : ∀ x ∈ rs,
      E.extract x field = [] ∨ ∃ n : Int64, E.extract x field = [.long n] := by
    obtain ⟨q, p, -, -, hselect⟩ := matching_eq_ok_iff.1 hrs
    exact fun x hx => hvalues x ((Query.mem_select hselect).1 hx).1
  -- The group of the bucket is that of a span.
  rw [hkind] at hfind
  obtain ⟨span, hspan, hrecords, hfixed⟩ := Grouping.exists_span_of_mem hg hfind hgroup
  rw [← hgkey] at hspan
  -- The name stands for the ends of the span.
  obtain ⟨sel, p, hsel, hp, hselects⟩ :=
    hspan.exists_selection (E := E) hg hkeys hnow hzone hlength name field
  have hselected := Query.select_eq_filter fun x hx => hselects x (hmatched x hx)
  refine ⟨rs, span, hrs, hspan, ?_, search_within_named hrs hqueries hd (hkind ▸ hsel) hp
    hselected hparams hsorts hquery haggs, ?_, hfixed⟩
  · rw [hgcount, hrecords]
  · exact forall₂_congr fun x hx => DateSpan.selects_eq_counts_iff (hmatched x hx)

end Vocabulary

/-! ## Clockings -/

namespace Vocabulary

/-- A vocabulary with a name for the seconds of clockings. -/
def seconds : Vocabulary where
  aggregations :=
    [("seconds", { key := "seconds", kind := .onField "at" (.dateHistogram "1s" none none none) })]

/-- Clockings that are nothing but their instant in milliseconds. -/
def clockings (ns : List Int64) : Store Int64 := Store.ofList (ns.map fun n => ("at", n))

/-- The instant of a clocking, at every path. -/
def instantOf : Evaluator Int64 := fun n _ => .ok (.long n)

section Examples

attribute [local instance] Environment.isolated

/-- The bucket of a second counts the clockings that its span counts, its name finds those that the
span selects, and they are the same. -/
theorem date_bucket_of_seconds :
    ∃ rs span, seconds.matching instantOf Instant.earliest
        { aggs := [{ key := "x", kind := .named "seconds" }] } (clockings [61500]) = .ok rs ∧
      (Grouping.dateHistogram "1s" none none none).Spans Instant.earliest (.long 61000) span ∧
      1 = (rs.filter fun x => span.counts (instantOf.extract x "at")).length ∧
      (∃ result', (seconds.decorate (Store.backend instantOf Instant.earliest)).search
          { query := some (.named "seconds" (.long 61000)) } (clockings [61500]) =
            (.ok result', clockings [61500]) ∧
        result'.totalItems = (rs.filter fun x => span.selects (instantOf.extract x "at")).length) ∧
      ((∀ x ∈ rs, span.selects (instantOf.extract x "at") =
          span.counts (instantOf.extract x "at")) ↔
        ∀ x ∈ rs, ¬ span.Astray (instantOf.extract x "at")) ∧
      ∀ offset, Zone.ofIdOrUtc none = .fixed offset → ∀ n, ¬ span.Astray [.long n] :=
  date_bucket_iff
    (d := { key := "seconds", kind := .onField "at" (.dateHistogram "1s" none none none) })
    (a := { key := "x", kind := .named "seconds" })
    (r := { aggs := [{ key := "x", kind := .named "seconds" }] })
    (b := {
      key := .long 61000
      count := 1
      lower := some (.long 61000)
      upper := some (.long 62000) })
    rfl rfl rfl (.intervals "1s" none none) List.nodup_nil ⟨by decide, by decide⟩ rfl
    List.mem_cons_self (fun _ h _ => List.mem_singleton.1 h) rfl rfl rfl List.mem_cons_self rfl
    (fun n h => Value.long.inj h ▸ by decide) (fun n _ => .inr ⟨n, rfl⟩) rfl rfl rfl
    (SearchRequest.sortable_nil _ _)

/-- A second is counted as one bucket, but its name finds nothing: the milliseconds at which the
second starts are read as the year 1000. -/
theorem count_of_seconds :
    (seconds.decorate (Store.backend instantOf Instant.earliest)).search
        { aggs := [{ key := "x", kind := .named "seconds" }] } (clockings [1000]) =
      (.ok { aggs := [("x", {
               key := "x"
               field := some "at"
               buckets := some [{
                 key := .long 1000
                 count := 1
                 lower := some (.long 1000)
                 upper := some (.long 2000) }] })]
             items := some [1000]
             totalItems := 1 }, clockings [1000]) ∧
    (seconds.decorate (Store.backend instantOf Instant.earliest)).search
        { query := some (.named "seconds" (.long 1000)) } (clockings [1000]) =
      (.ok { aggs := [], items := some [], totalItems := 0 }, clockings [1000]) :=
  ⟨rfl, rfl⟩

end Examples

end Vocabulary

end Sift
