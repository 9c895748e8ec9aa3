import Sift.Proofs.DateExpressions
import Sift.Proofs.DatePrecisions
import Sift.Proofs.RoundedRuns
import Sift.Query.Predicate

/-!
# Rounding down and rounding up

The start of a range of dates is rounded down and its end is rounded up. On a clock that keeps its
distance from UTC, an expression is therefore not earlier as an end than it is as a start, so that a
range from an expression to the same expression has the instant of it. The exceptions are operations
that reverse the order, which takes a move by months or years to the end of a shorter month, and
dates in a leap second that stand alone.

## Main definitions

* `Sift.DateExpression.reverses`: whether the operations of an expression reverse the order.
* `Sift.DateExpression.LoneLeapSecond`: the expression is a date in a leap second.

## Main results

* `Sift.DateExpression.seconds_le_of_evaluate`: no expression denotes anything beyond the end of the
  calendar's range.
* `Sift.DateExpression.reverses_of_keepsClock`: expressions that keep the order.
* `Sift.DateExpression.evaluate_directions`: the order of what an expression denotes, rounded down
  and up, and the range from one to the other.
* `Sift.DateExpression.january_ends_collide`: two days that are moved to the end of February.
-/

set_option autoImplicit false

namespace Sift

open Sift.Interval (boundary index)

namespace DateExpression

variable {offset : Int} {t x : ZonedTime} {ops : List Operation}

/-! ## Bounds of the calendar -/

/-- What an addition leads to is in range. -/
lemma range_of_add {u : DateUnit} {n : Int} {z : Zone} (h : u.add t n z = .ok x) :
    inRange x.instant.seconds = true := by
  unfold DateUnit.add at h
  split at h
  · split at h
    · rename_i s hs
      obtain rfl := Except.ok.inj h
      unfold Instant.shift? at hs
      dsimp only at hs
      split at hs
      · rename_i hrange
        obtain rfl := Option.some.inj hs
        exact hrange
      · cases hs
    · cases h
  · dsimp only at h
    split at h
    · cases h
    · split at h
      · exact (Zone.range_of_ofWall h).1
      · cases h

/-- The millisecond before an instant is not in a later second. -/
lemma previousMilli_seconds_le (s : Instant) : s.previousMilli.seconds ≤ s.seconds := by
  unfold Instant.previousMilli
  split <;> dsimp only <;> omega

/-- Rounding up does not lead behind the range of the calendar. -/
lemma seconds_le_of_ceil {u : DateUnit} {z : Zone} (h : u.ceil t z = .ok x) :
    x.instant.seconds ≤ maxSeconds := by
  unfold DateUnit.ceil at h
  split at h
  · cases h
  · split at h
    · cases h
    · rename_i next hnext
      obtain rfl := Except.ok.inj h
      exact (previousMilli_seconds_le _).trans (inRange_iff.1 (range_of_add hnext)).2

/-- No operation leads beyond the end of the calendar's range. -/
lemma Operation.seconds_le_of_run {z : Zone} {roundUp : Bool}
    (ht : t.instant.seconds ≤ maxSeconds) (h : run z roundUp t ops = .ok x) :
    x.instant.seconds ≤ maxSeconds := by
  induction ops generalizing t with
  | nil => exact Except.ok.inj h ▸ ht
  | cons op ops ih =>
    obtain ⟨y, hy, hrun⟩ := run_cons_eq_ok_iff.1 h
    refine ih ?_ hrun
    cases op with
    | round u =>
      cases roundUp with
      | false => exact (inRange_iff.1 (DateUnit.inMillis_of_floor hy).range).2
      | true => exact seconds_le_of_ceil hy
    | move n u => exact (inRange_iff.1 (range_of_add hy)).2

/-! ## Expressions -/

/-- Whether the operations of an expression lead to an earlier time when they are rounded up. -/
def reverses (z : Zone) (now : Instant) (e : String) : Bool :=
  match start? z now (Text.trimChars e.toList) with
  | some (t, rest) => ((operations? .idle rest).map (reversed z t t false)).getD false
  | none => false

/-- The expression is a date that stands alone, is written down to the second, and is in a leap
second. -/
def LoneLeapSecond (z : Zone) (now : Instant) (e : String) : Prop :=
  start? z now (Text.trimChars e.toList) = none ∧ ∃ t,
    DateLiteral.read z (Text.trim e) = .ok (t, some .second) ∧ nanosPerSecond ≤ t.instant.nanos

variable {e : String} {now d u : Instant}

/-- An expression starts at a valid instant. -/
lemma start?_valid {z : Zone} (hnow : now.Valid) {cs rest : List Char}
    (h : start? z now cs = some (t, rest)) : t.instant.Valid := by
  unfold start? at h
  split at h
  · obtain ⟨rfl, -⟩ := Prod.mk.inj (Option.some.inj h)
    exact hnow
  · obtain ⟨⟨anchor, behind⟩, -, hread⟩ := Option.bind_eq_some_iff.1 h
    obtain ⟨⟨t', p⟩, htime, hpair⟩ := Option.map_eq_some_iff.1 hread
    obtain ⟨rfl, -⟩ := Prod.mk.inj hpair
    cases hliteral : DateLiteral.read z (String.ofList anchor) with
    | error e =>
      rw [hliteral] at htime
      cases htime
    | ok y =>
      rw [hliteral] at htime
      obtain rfl := Option.some.inj htime
      exact DateLiteral.valid_of_read hliteral

/-- Expressions do not denote anything beyond the end of the calendar's range. -/
theorem seconds_le_of_evaluate {z : Zone} {roundUp : Bool} (hnow : now.Valid)
    (h : evaluate e now roundUp z = .ok u) : u.seconds ≤ maxSeconds := by
  cases hstart : start? z now (Text.trimChars e.toList) with
  | some pair =>
    obtain ⟨ops, x, -, hrun, rfl⟩ := (evaluate_eq_ok_iff_of_start? hstart).1 h
    have hvalid := start?_valid hnow hstart
    exact Operation.seconds_le_of_run (inRange_iff.1 hvalid.range).2 hrun
  | none =>
    obtain ⟨t, p, hread, ⟨-, rfl⟩ | ⟨unit, x, -, -, hceil, rfl⟩⟩ := exists_read_of_evaluate hstart h
    · exact (inRange_iff.1 (DateLiteral.valid_of_read hread).range).2
    · exact seconds_le_of_ceil hceil

/-- A date that stands alone is not later than the last millisecond of its unit, unless it is in a
leap second. -/
lemma le_of_read {unit : DateUnit} {text : String}
    (hread : DateLiteral.read (.fixed offset) text = .ok (t, some unit))
    (hleap : unit = .second → t.instant.nanos < nanosPerSecond)
    (hceil : unit.ceil t (.fixed offset) = .ok x) :
    t.instant ≤ x.instant ∧ x.instant.nanos = 999000000 := by
  have hnanos : t.instant.nanos = 0 :=
    (DateLiteral.nanos_of_read hread).resolve_right fun h => (hleap h.1).ne h.2
  obtain ⟨-, hlt⟩ := (Interval.index_eq_iff (i := ⟨1, unit⟩) DateUnit.count_one_pos _ _).1
    (rfl : index ⟨1, unit⟩ (t.instant.seconds + offset) = _)
  rw [DateUnit.instant_of_ceil hceil]
  refine ⟨Instant.le_iff.2 ?_, rfl⟩
  dsimp only
  omega

/-- A leap second is later than the last millisecond of the second before it. -/
lemma lt_of_ceil_second (hleap : nanosPerSecond ≤ t.instant.nanos)
    (hceil : DateUnit.second.ceil t (.fixed offset) = .ok x) : x.instant < t.instant := by
  have hend : boundary ⟨1, .second⟩ (index ⟨1, .second⟩ (t.instant.seconds + offset) + 1) -
      offset - 1 = t.instant.seconds := by
    show ((t.instant.seconds + offset + 0) / 1 + 1) * 1 - 0 - offset - 1 = _
    omega
  rw [DateUnit.instant_of_ceil hceil, hend, Instant.lt_iff]
  have hmilli : 999000000 < nanosPerSecond := by decide
  exact .inr ⟨rfl, hmilli.trans_le hleap⟩

/-- What the operations of an expression lead to, when they are rounded down and up. -/
lemma reached_of_start? {pair : ZonedTime × List Char}
    (hstart : start? (.fixed offset) now (Text.trimChars e.toList) = some pair)
    (hd : evaluate e now false (.fixed offset) = .ok d)
    (hu : evaluate e now true (.fixed offset) = .ok u) :
    ∃ x x' : ZonedTime, Reached (reverses (.fixed offset) now e) x x' ∧
      x.instant = d ∧ x'.instant = u := by
  obtain ⟨ops, x, hops, hrun, hx⟩ := (evaluate_eq_ok_iff_of_start? hstart).1 hd
  obtain ⟨ops', x', hops', hrun', hx'⟩ := (evaluate_eq_ok_iff_of_start? hstart).1 hu
  obtain rfl := Option.some.inj (hops.symm.trans hops')
  have hreverses : reverses (.fixed offset) now e =
      reversed (.fixed offset) pair.1 pair.1 false ops := by
    rw [reverses, hstart]
    dsimp only
    rw [hops]
    rfl
  rw [hreverses]
  exact ⟨x, x', Operation.reached_of_run (.inl ⟨rfl, rfl⟩) hrun hrun', hx, hx'⟩

/-- **Rounding up is not earlier**, unless the operations reverse the order or a leap second stands
alone. -/
theorem le_of_evaluate (hd : evaluate e now false (.fixed offset) = .ok d)
    (hu : evaluate e now true (.fixed offset) = .ok u)
    (hkept : reverses (.fixed offset) now e = false)
    (hlone : ¬ LoneLeapSecond (.fixed offset) now e) : d ≤ u ∧ (u = d ∨ u.nanos = 999000000) := by
  cases hstart : start? (.fixed offset) now (Text.trimChars e.toList) with
  | some pair =>
    obtain ⟨x, x', hreached, rfl, rfl⟩ := reached_of_start? hstart hd hu
    rw [hkept] at hreached
    exact ⟨hreached.le, hreached.imp And.right fun h => h.2.1⟩
  | none =>
    have hrefl : ∀ s : Instant, s ≤ s := fun s => Instant.le_iff.2 (.inr ⟨rfl, le_rfl⟩)
    obtain ⟨t, p, hread, ⟨-, rfl⟩ | ⟨unit, x, hfalse, -⟩⟩ := exists_read_of_evaluate hstart hd
    · obtain ⟨t', p', hread', hup⟩ := exists_read_of_evaluate hstart hu
      obtain ⟨rfl, rfl⟩ := Prod.mk.inj (Except.ok.inj (hread.symm.trans hread'))
      rcases hup with ⟨-, rfl⟩ | ⟨unit, x, -, rfl, hceil, rfl⟩
      · exact ⟨hrefl _, .inl rfl⟩
      · have hle := le_of_read hread
          (fun hunit => Nat.not_le.1 fun hleap => hlone ⟨hstart, t, hunit ▸ hread, hleap⟩) hceil
        exact ⟨hle.1, .inr hle.2⟩
    · cases hfalse

/-- An expression whose operations reverse the order is earlier when it is rounded up. -/
lemma lt_of_reverses (h : reverses (.fixed offset) now e = true)
    (hd : evaluate e now false (.fixed offset) = .ok d)
    (hu : evaluate e now true (.fixed offset) = .ok u) : u < d := by
  cases hstart : start? (.fixed offset) now (Text.trimChars e.toList) with
  | some pair =>
    obtain ⟨x, x', hreached, rfl, rfl⟩ := reached_of_start? hstart hd hu
    exact (h ▸ hreached).lt
  | none =>
    rw [reverses, hstart] at h
    cases h

/-- An expression keeps the order if it has no moves by hours, minutes or seconds behind its first
rounding. -/
theorem reverses_of_keepsClock (h : ∀ t rest, start? (.fixed offset) now (Text.trimChars e.toList) =
    some (t, rest) → ∀ ops, operations? .idle rest = some ops →
      ∀ op ∈ ops.dropWhile Operation.isMove, op.keepsClock = true) :
    reverses (.fixed offset) now e = false := by
  unfold reverses
  split
  · rename_i t rest hstart
    cases hops : operations? .idle rest with
    | none => rfl
    | some ops => exact reversed_of_dropWhile (h t rest hstart ops hops)
  · rfl

/-- A date in a leap second that stands alone is earlier when it is rounded up. -/
lemma LoneLeapSecond.lt (h : LoneLeapSecond (.fixed offset) now e)
    (hd : evaluate e now false (.fixed offset) = .ok d)
    (hu : evaluate e now true (.fixed offset) = .ok u) : u < d := by
  obtain ⟨hstart, t, hread, hleap⟩ := h
  obtain ⟨t₁, p₁, hread₁, hdown⟩ := exists_read_of_evaluate hstart hd
  obtain ⟨t₂, p₂, hread₂, hup⟩ := exists_read_of_evaluate hstart hu
  obtain ⟨rfl, rfl⟩ := Prod.mk.inj (Except.ok.inj (hread.symm.trans hread₁))
  obtain ⟨rfl, rfl⟩ := Prod.mk.inj (Except.ok.inj (hread.symm.trans hread₂))
  obtain ⟨-, rfl⟩ | ⟨-, -, hfalse, -⟩ := hdown
  · obtain ⟨hfalse | hnone, -⟩ | ⟨unit, x, -, hunit, hceil, rfl⟩ := hup
    · cases hfalse
    · cases hnone
    · obtain rfl := Option.some.inj hunit
      exact lt_of_ceil_second hleap hceil
  · cases hfalse

/-- Milliseconds keep the order of instants of the calendar. -/
lemma millis_le_millis (hd : d.Valid) (hu : d ≤ u ∧ (u = d ∨ u.nanos = 999000000)) :
    d.millis ≤ u.millis := by
  obtain ⟨hle, rfl | hnanos⟩ := hu
  · exact le_rfl
  · have hfraction := hd.fraction
    rw [Instant.le_iff] at hle
    unfold nanosPerSecond at hfraction
    unfold Instant.millis
    omega

/-- What an expression denotes when it is rounded up is an instant of the calendar too, if it is not
earlier. -/
lemma valid_of_le (hnow : now.Valid) (hd : d.Valid) {z : Zone}
    (hu : evaluate e now true z = .ok u) (hle : d ≤ u ∧ (u = d ∨ u.nanos = 999000000)) :
    u.Valid := by
  have hlast := seconds_le_of_evaluate hnow hu
  obtain ⟨hle, rfl | hnanos⟩ := hle
  · exact hd
  · have hfirst := (inRange_iff.1 hd.range).1
    rw [Instant.le_iff] at hle
    refine ⟨inRange_iff.2 ⟨by omega, hlast⟩, ?_⟩
    rw [hnanos]
    decide

/-- An expression that denotes an instant of the calendar stands for its milliseconds. -/
lemma exists_resolveDate {z : Zone} {roundUp : Bool} {t : Instant}
    (ht : evaluate e now roundUp z = .ok t) (hvalid : t.Valid) :
    ∃ n : Int64, (Value.str e).resolveDate now roundUp z = .ok (.long n) ∧ n.toInt = t.millis := by
  refine ⟨Int64.ofInt t.millis, ?_, hvalid.toInt_ofInt_millis⟩
  rw [Value.resolveDate, ht]
  rfl

/-- The bounds of a range from an expression to the same expression are met by the milliseconds of
the instant that the expression denotes, if rounding up leads to no earlier ones. -/
lemma exists_dateLimits_of_le {z : Zone} (hd : evaluate e now false z = .ok d)
    (hdvalid : d.Valid) (hu : evaluate e now true z = .ok u) (huvalid : u.Valid)
    (hle : d.millis ≤ u.millis) :
    ∃ limits, Condition.dateLimits now z { gte := some (.str e), lte := some (.str e) } =
        .ok limits ∧
      ∀ {n : Int64} {vs : List Value}, n.toInt = d.millis → Value.long n ∈ vs →
        Value.meetLimits limits vs = true := by
  obtain ⟨first, hfirst, hfirst'⟩ := exists_resolveDate hd hdvalid
  obtain ⟨last, hlast, hlast'⟩ := exists_resolveDate hu huvalid
  refine ⟨[(.lte, .long last), (.gte, .long first)], ?_, fun {n vs} hn hmem => ?_⟩
  · have hlimits : ({ gte := some (.str e), lte := some (.str e) } : Bounds).limits =
        [(.lte, .str e), (.gte, .str e)] := rfl
    rw [Condition.dateLimits, hlimits, Sequencing.mapM_eq_ok_iff]
    simp only [List.map_cons, List.map_nil, BoundSide.roundsUp, hfirst, hlast, Except.map]
  · have hupper : BoundSide.lte.accepts ((Value.long n).compareBound (.long last)) = true := by
      have haccepts : ∀ o, BoundSide.lte.accepts o = true ↔ o ≠ .gt := by decide
      have hcompare : (Value.long n).compareBound (.long last) = compare n.toInt last.toInt := rfl
      rw [hcompare, haccepts, Ne, compare_gt_iff_gt]
      omega
    have hlower : BoundSide.gte.accepts ((Value.long n).compareBound (.long first)) = true := by
      have haccepts : ∀ o, BoundSide.gte.accepts o = true ↔ o ≠ .lt := by decide
      have hcompare : (Value.long n).compareBound (.long first) = compare n.toInt first.toInt := rfl
      rw [hcompare, haccepts, Ne, compare_lt_iff_lt]
      omega
    rw [Value.meetLimits, List.all_cons, List.all_cons, List.all_nil, Bool.and_true,
      Bool.and_eq_true]
    exact ⟨List.any_eq_true.2 ⟨_, hmem, hupper⟩, List.any_eq_true.2 ⟨_, hmem, hlower⟩⟩

/-- A range of dates accepts a record with a value whose date is in it, unless the date of some
value breaks the test off. -/
lemma datesWithin_of_mem {z : Zone} {limits : List (BoundSide × Value)} {v : Value} {n : Int64}
    {vs : List Value} (hv : v ∈ vs) (hn : v.recordDate z = .ok (.long n))
    (hmet : ∀ ws, Value.long n ∈ ws → Value.meetLimits limits ws = true) :
    Condition.datesWithin z limits vs ≠ .ok false ∧
      ((∀ w ∈ vs, ∃ m, w.recordDate z = .ok m) → Condition.datesWithin z limits vs = .ok true) := by
  unfold Condition.datesWithin
  cases hws : vs.mapM (Value.recordDate z) with
  | error e =>
    refine ⟨nofun, fun hdates => ?_⟩
    obtain ⟨ws, h⟩ := Sequencing.exists_ok_mapM_iff.2 hdates
    cases hws.symm.trans h
  | ok ws =>
    obtain ⟨m, hm, hvm⟩ := Sequencing.exists_result hws hv
    obtain rfl := Except.ok.inj (hn.symm.trans hvm)
    rw [Except.map, hmet ws hm]
    exact ⟨nofun, fun _ => rfl⟩

/-- **Rounding up and rounding down.** On a clock that keeps its distance from UTC, an expression is
not earlier when it is rounded up, and a range of dates from an expression to the same expression
selects the records at the instant of it, unless the date of another value breaks the test off, with
two exceptions, in which it is earlier. One is a date
in a leap second that stands alone. The other one is a move by months or years that takes two times
which were rounded to different days to the same day, although the second one is earlier in its day:
from there on the order is reversed, until a rounding takes the second one to the unit of the first
one or a later unit, or such a move takes both to the same day and the second one is not earlier in
it.

**Proof sketch.** The first rounding leads to a whole second and to the last millisecond of the same
second or a later one. The operations behind it lead to such times again, but perhaps in reverse:
rounding puts them in order if their units are, moves by a fixed length keep the order, and moves by
months and years keep the order of days and the time of day. -/
theorem evaluate_directions (hnow : now.Valid)
    (hd : evaluate e now false (.fixed offset) = .ok d)
    (hu : evaluate e now true (.fixed offset) = .ok u) :
    (reverses (.fixed offset) now e = false → ¬ LoneLeapSecond (.fixed offset) now e →
      d ≤ u ∧ ∀ {R : Type} [Environment] (E : Evaluator R) (field : String) (tz : Option String),
        Zone.ofIdOrUtc tz = .fixed offset → ∃ selects,
          (Query.leaf field (.dateRange { gte := some (.str e), lte := some (.str e) } tz)).compile
            E now = .ok selects ∧
          ∀ r, ∀ v ∈ E.extract r field, ∀ n : Int64,
            Value.recordDate (.fixed offset) v = .ok (.long n) → n.toInt = d.millis →
              selects r ≠ .ok false ∧
                ((∀ w ∈ E.extract r field, ∃ m, w.recordDate (.fixed offset) = .ok m) →
                  selects r = .ok true)) ∧
      (reverses (.fixed offset) now e = true ∨ LoneLeapSecond (.fixed offset) now e → u < d) := by
  refine ⟨fun hkept hlone => ?_, fun h => h.elim (lt_of_reverses · hd hu) (·.lt hd hu)⟩
  have horder := le_of_evaluate hd hu hkept hlone
  have hdvalid := valid_of_evaluate hnow hd
  have huvalid := valid_of_le hnow hdvalid hu horder
  have hle := millis_le_millis hdvalid horder
  refine ⟨horder.1, fun {R} _ E field tz hz => ?_⟩
  obtain ⟨limits, hlimits, hmet⟩ := exists_dateLimits_of_le hd hdvalid hu huvalid hle
  refine ⟨fun r => Condition.datesWithin (.fixed offset) limits (E.extract r field), ?_,
    fun r v hv n hn hmillis => datesWithin_of_mem hv hn fun ws hws => hmet hmillis hws⟩
  rw [Query.compile, Condition.compile, hz]
  simp only [hlimits]

section Examples

attribute [local instance] Environment.isolated

/-- Noon of a day, a month later: the middle of January is moved to the middle of February, and the
range has noon in it. -/
theorem evaluate_directions_january :
    (⟨1707991200, 0⟩ : Instant) ≤ ⟨1708077599, 999000000⟩ ∧
      ∃ selects, (Query.leaf "f" (.dateRange
          { gte := some (.str "now/d+12h+1M"), lte := some (.str "now/d+12h+1M") }
          (some "+02:00"))).compile Evaluator.json ⟨1705312800, 0⟩ = .ok selects ∧
        selects (.obj [("f", .int 1707991200000)]) = .ok true := by
  have hnow : (⟨1705312800, 0⟩ : Instant).Valid := ⟨by decide, by decide⟩
  have hzone : Zone.ofIdOrUtc (some "+02:00") = .fixed 7200 := by decide +kernel
  have hkept : reverses (.fixed 7200) ⟨1705312800, 0⟩ "now/d+12h+1M" = false := by
    decide +kernel
  have hlone : ¬ LoneLeapSecond (.fixed 7200) ⟨1705312800, 0⟩ "now/d+12h+1M" :=
    fun h => absurd h.1 (by decide +kernel)
  have hdown : evaluate "now/d+12h+1M" ⟨1705312800, 0⟩ false (.fixed 7200) =
      .ok ⟨1707991200, 0⟩ := by decide +kernel
  have hup : evaluate "now/d+12h+1M" ⟨1705312800, 0⟩ true (.fixed 7200) =
      .ok ⟨1708077599, 999000000⟩ := by decide +kernel
  obtain ⟨hle, hrange⟩ := (evaluate_directions hnow hdown hup).1 hkept hlone
  obtain ⟨selects, hselects, hrecords⟩ := hrange Evaluator.json "f" (some "+02:00") hzone
  exact ⟨hle, selects, hselects,
    (hrecords (.obj [("f", .int 1707991200000)]) _ List.mem_cons_self 1707991200000 rfl rfl).2
      fun w hw => ⟨.long 1707991200000, List.mem_singleton.1 hw ▸ rfl⟩⟩

/-- **Noon of two days of January, a month later, is noon of the same day of February.** The second
one is a millisecond before noon, so that the expression is earlier when it is rounded up, and the
range from it to itself does not have it. -/
theorem january_ends_collide :
    evaluate "now/d+12h+1M" ⟨1675036800, 0⟩ false .utc = .ok ⟨1677585600, 0⟩ ∧
      evaluate "now/d+12h+1M" ⟨1675036800, 0⟩ true .utc = .ok ⟨1677585599, 999000000⟩ ∧
      ¬ (⟨1677585600, 0⟩ : Instant) ≤ ⟨1677585599, 999000000⟩ ∧
      ∃ selects, (Query.leaf "f" (.dateRange
          { gte := some (.str "now/d+12h+1M"), lte := some (.str "now/d+12h+1M") }
          none)).compile Evaluator.json ⟨1675036800, 0⟩ = .ok selects ∧
        selects (.obj [("f", .int 1677585600000)]) = .ok false := by
  refine ⟨rfl, rfl, by decide, _, rfl, by decide +kernel⟩

end Examples

end DateExpression

end Sift
