import Sift.Proofs.CalendarDays
import Sift.Proofs.DateOperations
import Sift.Proofs.FixedClocks

/-!
# Runs that round down and up

The same operations are applied to two times, and rounded down in one run and up in the other one.
The times that the runs reach are the same at first, and from the first rounding on they are a whole
second and the last millisecond of a second. On a clock that keeps its distance from UTC, it can be
followed whether the second time is before the first one. Moves by a fixed length keep their order,
and rounding puts them in order unless the second one is in an earlier unit. Moves by months and
years keep the order of days, but those that end on the last day of a shorter month may lead from
two days to one, and then the times of day decide.

## Main definitions

* `Sift.DateExpression.reversed`: whether rounding up leads to an earlier time than rounding down.
* `Sift.DateExpression.Reached`: times that the two runs reach.

## Main results

* `Sift.Date.dayNumber_addMonths_mono`: moving by months keeps the order of days.
* `Sift.DateExpression.Operation.reached_of_apply`: what one operation does to the order.
* `Sift.DateExpression.Operation.reached_of_run`: what all of them do.
* `Sift.DateExpression.reversed_of_dropWhile`: without moves by hours, minutes or seconds behind a
  rounding, the order is kept.
-/

set_option autoImplicit false

namespace Sift

open Sift.Interval (boundary index)

/-! ## Months -/

namespace Date

/-- The day of a month, or its last day where the month is shorter. -/
lemma dayNumber_ofMonthIndex (k day : Int) :
    (ofMonthIndex k day).dayNumber = min (firstDay k + day) (firstDay (k + 1)) - 1 := by
  have hmonth : 1 ≤ k % 12 + 1 ∧ k % 12 + 1 ≤ 12 := by omega
  have hindex : k / 12 * 12 + (k % 12 + 1 - 1) = k := by omega
  have hnext := firstDay_succ (k / 12) hmonth
  have hnumber := dayNumber_eq (d := ofMonthIndex k day) hmonth
  have hself : (ofMonthIndex k day).monthIndex = k := hindex
  rw [hindex] at hnext
  rw [hself] at hnumber
  rw [hnumber, hnext]
  show firstDay k + min day (daysInMonth (k / 12) (k % 12 + 1)) - 1 = _
  omega

/-- **Moving by months keeps the order of days**, but days of a longer month may become one. -/
theorem dayNumber_addMonths_mono {a b : Int} (h : a ≤ b) (n : Int) :
    ((ofDayNumber a).addMonths n).dayNumber ≤ ((ofDayNumber b).addMonths n).dayNumber := by
  obtain ⟨ha, hposa, hnexta⟩ := firstDay_monthIndex_le a
  obtain ⟨hb, hposb, hnextb⟩ := firstDay_monthIndex_le b
  have hmonth : (ofDayNumber a).monthIndex ≤ (ofDayNumber b).monthIndex := by
    rw [le_monthIndex_iff]
    omega
  unfold addMonths
  rw [dayNumber_ofMonthIndex, dayNumber_ofMonthIndex]
  rcases hmonth.lt_or_eq with hlt | heq
  · have hlast := firstDay_le_firstDay
      (m := (ofDayNumber a).monthIndex + n + 1) (n := (ofDayNumber b).monthIndex + n) (by omega)
    have hnext := firstDay_lt_succ ((ofDayNumber b).monthIndex + n)
    omega
  · rw [heq] at ha ⊢
    omega

end Date

/-- The second of a day is within the day. -/
lemma WallTime.secondOfDay_bounds (w : WallTime) : 0 ≤ w.secondOfDay ∧ w.secondOfDay < 86400 :=
  ⟨Int.emod_nonneg _ (by decide), Int.emod_lt_of_pos _ (by decide)⟩

/-- A later instant is not moved to an earlier day. -/
theorem Instant.dayNumber_addMonths_mono {a b : Instant} (h : a.seconds ≤ b.seconds)
    (offset n : Int) : ((a.wallTime offset).date.addMonths n).dayNumber ≤
      ((b.wallTime offset).date.addMonths n).dayNumber :=
  Date.dayNumber_addMonths_mono
    (Int.ediv_le_ediv (by decide) (Int.add_le_add_right h offset)) _

/-- A millisecond before a whole second. -/
lemma Instant.previousMilli_second (s : Int) :
    (⟨s, 0⟩ : Instant).previousMilli = ⟨s - 1, 999000000⟩ := by
  simp [previousMilli, nanosPerSecond]

/-- The months of some years or months. -/
def DateUnit.months (u : DateUnit) (n : Int) : Int := if u = .year then n * 12 else n

namespace DateUnit

variable {u : DateUnit} {offset n : Int} {t x : ZonedTime}

/-- Moving does not depend on the distance from UTC that was in effect. -/
lemma add_localize {z : Zone} (t : ZonedTime) :
    u.add (z.localize t.instant) n z = u.add t n z := rfl

/-- Moving by months or years on a clock that keeps its distance from UTC. -/
lemma instant_of_add_months (hu : u.seconds? = none) (h : u.add t n (.fixed offset) = .ok x) :
    ((t.instant.wallTime offset).date.addMonths (u.months n)).isValid = true ∧
      x.instant = ⟨((t.instant.wallTime offset).date.addMonths (u.months n)).dayNumber *
        secondsPerDay + (t.instant.wallTime offset).secondOfDay - offset, t.instant.nanos⟩ := by
  have hexact : u.isExact = false := by
    cases u <;> first | rfl | cases hu
  have hadd : u.wallAdd? (t.instant.wallTime offset) n =
      (t.instant.wallTime offset).addMonths? (u.months n) := by
    cases u <;> first | rfl | cases hu
  have hwall : ((Zone.fixed offset).localize t.instant).wall = t.instant.wallTime offset := rfl
  unfold add at h
  rw [hexact, if_neg Bool.false_ne_true] at h
  dsimp only at h
  split at h
  · cases h
  rw [hwall, hadd, WallTime.addMonths?] at h
  by_cases hvalid : ((t.instant.wallTime offset).date.addMonths (u.months n)).isValid = true
  · rw [if_pos hvalid] at h
    obtain ⟨-, rfl⟩ := Zone.ofWall_fixed_iff.1 h
    exact ⟨hvalid, rfl⟩
  · rw [if_neg hvalid] at h
    cases h

/-- Rounding down on such a clock. -/
lemma instant_of_floor (h : u.floor t (.fixed offset) = .ok x) : x.instant =
    ⟨boundary ⟨1, u⟩ (index ⟨1, u⟩ (t.instant.seconds + offset)) - offset, 0⟩ := by
  obtain ⟨-, -, -, rfl⟩ := floor_fixed_iff.1
    (h : u.floor ((Zone.fixed offset).localize t.instant) (.fixed offset) = .ok x)
  rw [Interval.wallFloor_seconds]
  rfl

/-- Rounding up on such a clock. -/
lemma instant_of_ceil (h : u.ceil t (.fixed offset) = .ok x) : x.instant =
    ⟨boundary ⟨1, u⟩ (index ⟨1, u⟩ (t.instant.seconds + offset) + 1) - offset - 1, 999000000⟩ := by
  unfold ceil at h
  split at h
  · cases h
  · rename_i start hstart
    split at h
    · cases h
    · rename_i next hnext
      obtain rfl := Except.ok.inj h
      have hadd : u.add ((Zone.fixed offset).localize start.instant) 1 (.fixed offset) =
          .ok next := hnext
      rw [instant_of_floor hstart] at hadd
      obtain ⟨hinstant, -, -⟩ := Interval.instant_of_add (i := ⟨1, u⟩) hadd
      dsimp only
      rw [hinstant, Instant.previousMilli_second]

end DateUnit

/-! ## Operations -/

namespace DateExpression

/-- Whether the second one of two times is before the first one behind an operation, where it was or
was not in front of it. Rounding decides this by the starts of the units, and a move by months or
years to the same day by the times of day. -/
def Operation.reversed (z : Zone) (t t' : ZonedTime) (was : Bool) (op : Operation) : Bool :=
  let w := (z.localize t.instant).wall
  let w' := (z.localize t'.instant).wall
  match op with
  | round u => decide ((u.wallFloor w').seconds < (u.wallFloor w).seconds)
  | move n u =>
    if u.seconds? = none ∧ w.date.addMonths (u.months n) = w'.date.addMonths (u.months n) then
      decide (w'.secondOfDay < w.secondOfDay)
    else was

/-- Whether a run that rounds up leads to a time before that of a run that rounds down. -/
def reversed (z : Zone) (t t' : ZonedTime) (was : Bool) : List Operation → Bool
  | [] => was
  | op :: ops =>
    match op.apply z false t, op.apply z true t' with
    | .ok x, .ok x' => reversed z x x' (op.reversed z t t' was) ops
    | _, _ => was

/-- Two times that are reached by rounding down and by rounding up: the same instant, or a whole
second and the last millisecond of a second, which is an earlier one if they are reversed. -/
def Reached (reversed : Bool) (t t' : ZonedTime) : Prop :=
  reversed = false ∧ t'.instant = t.instant ∨
    t.instant.nanos = 0 ∧ t'.instant.nanos = 999000000 ∧
      (reversed = true ↔ t'.instant.seconds < t.instant.seconds)

variable {offset : Int} {t t' x x' : ZonedTime} {was : Bool} {op : Operation} {ops : List Operation}

/-- Where the order is reversed, the second instant is before the first one. -/
lemma Reached.lt (h : Reached true t t') : t'.instant < t.instant := by
  obtain ⟨hfalse, -⟩ | ⟨-, -, hreversed⟩ := h
  · cases hfalse
  · exact Instant.lt_iff.2 (.inl (hreversed.1 rfl))

/-- Where the order is not reversed, the second of the second instant is not before that of the
first one. -/
lemma Reached.seconds_le (h : Reached false t t') : t.instant.seconds ≤ t'.instant.seconds := by
  obtain ⟨-, heq⟩ | ⟨-, -, hreversed⟩ := h
  · rw [heq]
  · exact Int.not_lt.1 fun hlt => Bool.false_ne_true (hreversed.2 hlt)

/-- Where the order is not reversed, the second instant is not before the first one. -/
lemma Reached.le (h : Reached false t t') : t.instant ≤ t'.instant := by
  have hle := h.seconds_le
  rw [Instant.le_iff]
  obtain ⟨-, heq⟩ | ⟨hnanos, hnanos', -⟩ := h
  · rw [heq]
    exact .inr ⟨rfl, le_rfl⟩
  · omega

/-- Rounding reverses two times if the unit of the second one is before that of the first one. -/
lemma Operation.reversed_round_iff {u : DateUnit} :
    (round u).reversed (.fixed offset) t t' was = true ↔
      boundary ⟨1, u⟩ (index ⟨1, u⟩ (t'.instant.seconds + offset)) <
        boundary ⟨1, u⟩ (index ⟨1, u⟩ (t.instant.seconds + offset)) := by
  rw [reversed, decide_eq_true_iff, Interval.wallFloor_seconds, Interval.wallFloor_seconds]
  rfl

/-- Units of a fixed length leave the order as it was. -/
lemma Operation.reversed_move_of_seconds {u : DateUnit} {n length : Int}
    (hu : u.seconds? = some length) : (move n u).reversed (.fixed offset) t t' was = was := by
  rw [reversed, hu]
  exact if_neg fun h => Option.some_ne_none length h.1

/-- Months that lead to the same day leave the order to the time of day. -/
lemma Operation.reversed_move_of_months {u : DateUnit} {n : Int} (hu : u.seconds? = none) :
    (move n u).reversed (.fixed offset) t t' was =
      if (t.instant.wallTime offset).date.addMonths (u.months n) =
          (t'.instant.wallTime offset).date.addMonths (u.months n) then
        decide ((t'.instant.wallTime offset).secondOfDay < (t.instant.wallTime offset).secondOfDay)
      else was := by
  rw [reversed, hu]
  simp only [true_and]
  rfl

/-- **Rounding** leads to times in order, unless the second one is in an earlier unit. -/
theorem reached_of_round {u : DateUnit} (h : u.floor t (.fixed offset) = .ok x)
    (h' : u.ceil t' (.fixed offset) = .ok x') :
    Reached ((Operation.round u).reversed (.fixed offset) t t' was) x x' := by
  rw [Reached, Operation.reversed_round_iff, DateUnit.instant_of_floor h,
    DateUnit.instant_of_ceil h']
  refine .inr ⟨rfl, rfl, ?_⟩
  dsimp only
  generalize index ⟨1, u⟩ (t.instant.seconds + offset) = j
  generalize index ⟨1, u⟩ (t'.instant.seconds + offset) = k
  have hnext := Interval.boundary_lt_succ (i := ⟨1, u⟩) DateUnit.count_one_pos k
  constructor
  · intro hlt
    have hindex : k + 1 ≤ j := by
      by_contra hle
      have hmono := Interval.boundary_mono (i := ⟨1, u⟩) DateUnit.count_one_pos
        (show j ≤ k by omega)
      omega
    have hmono := Interval.boundary_mono (i := ⟨1, u⟩) DateUnit.count_one_pos hindex
    omega
  · intro hlt
    omega

/-- A move by a fixed length keeps the order. -/
lemma reached_of_seconds {u : DateUnit} {n length : Int} (hu : u.seconds? = some length)
    (ht : Reached was t t') (h : u.add t n (.fixed offset) = .ok x)
    (h' : u.add t' n (.fixed offset) = .ok x') : Reached was x x' := by
  obtain ⟨rfl, heq⟩ | ⟨hnanos, hnanos', hwas⟩ := ht
  · have hsame : u.add t' n (.fixed offset) = u.add t n (.fixed offset) := by
      unfold DateUnit.add
      rw [heq]
    rw [hsame, h] at h'
    exact .inl ⟨rfl, congrArg ZonedTime.instant (Except.ok.inj h'.symm)⟩
  · have hlow : t.instant.nanos < nanosPerSecond := by rw [hnanos]; decide
    have hhigh : t'.instant.nanos < nanosPerSecond := by rw [hnanos']; decide
    obtain ⟨-, hx, -⟩ := DateUnit.add_fixed_of_seconds hu hlow ((DateUnit.add_localize t).trans h)
    obtain ⟨-, hx', -⟩ :=
      DateUnit.add_fixed_of_seconds hu hhigh ((DateUnit.add_localize t').trans h')
    rw [Reached, hx, hx', hwas]
    dsimp only
    exact .inr ⟨hnanos, hnanos', by omega⟩

/-- **A move by months** keeps the order of days. If it leads to the same day, then the times of day
decide. -/
theorem reached_of_months {u : DateUnit} {n : Int} (hu : u.seconds? = none) (ht : Reached was t t')
    (h : u.add t n (.fixed offset) = .ok x) (h' : u.add t' n (.fixed offset) = .ok x') :
    Reached ((Operation.move n u).reversed (.fixed offset) t t' was) x x' := by
  obtain ⟨hvalid, hx⟩ := DateUnit.instant_of_add_months hu h
  obtain ⟨hvalid', hx'⟩ := DateUnit.instant_of_add_months hu h'
  rw [Operation.reversed_move_of_months hu]
  obtain ⟨rfl, heq⟩ | ⟨hnanos, hnanos', hwas⟩ := ht
  · rw [heq, if_pos rfl]
    rw [heq] at hx'
    exact .inl ⟨decide_eq_false (lt_irrefl _), hx'.trans hx.symm⟩
  · refine .inr ⟨(congrArg Instant.nanos hx).trans hnanos,
      (congrArg Instant.nanos hx').trans hnanos', ?_⟩
    have hlow := (t.instant.wallTime offset).secondOfDay_bounds
    have hhigh := (t'.instant.wallTime offset).secondOfDay_bounds
    rw [hx, hx']
    unfold secondsPerDay
    dsimp only
    split
    · rename_i hdate
      rw [hdate, decide_eq_true_iff]
      omega
    · rename_i hdate
      -- Days with the same number have the same date.
      have hdays : ((t.instant.wallTime offset).date.addMonths (u.months n)).dayNumber ≠
          ((t'.instant.wallTime offset).date.addMonths (u.months n)).dayNumber := fun hsame => by
        have hdates := congrArg Date.ofDayNumber hsame
        rw [Date.ofDayNumber_dayNumber hvalid, Date.ofDayNumber_dayNumber hvalid'] at hdates
        exact hdate hdates
      rw [hwas]
      constructor
      · intro hlt
        have hle := Instant.dayNumber_addMonths_mono hlt.le offset (u.months n)
        omega
      · intro hlt
        by_contra hge
        have hle := Instant.dayNumber_addMonths_mono (Int.not_lt.1 hge) offset (u.months n)
        omega

/-- **One operation.** -/
theorem Operation.reached_of_apply (ht : Reached was t t')
    (h : op.apply (.fixed offset) false t = .ok x)
    (h' : op.apply (.fixed offset) true t' = .ok x') :
    Reached (op.reversed (.fixed offset) t t' was) x x' := by
  cases op with
  | round u => exact reached_of_round h h'
  | move n u =>
    cases hu : u.seconds? with
    | some length =>
      rw [reversed_move_of_seconds hu]
      exact reached_of_seconds hu ht h h'
    | none => exact reached_of_months hu ht h h'

/-- **All operations.** Whether the run that rounds up ends before the one that rounds down is what
one operation after the other says.

**Proof sketch.** By induction on the operations. Each one leads from times of the two runs to such
times, at which the others are applied. -/
theorem Operation.reached_of_run (ht : Reached was t t')
    (h : run (.fixed offset) false t ops = .ok x)
    (h' : run (.fixed offset) true t' ops = .ok x') :
    Reached (DateExpression.reversed (.fixed offset) t t' was ops) x x' := by
  induction ops generalizing t t' was with
  | nil =>
    obtain rfl := Except.ok.inj h
    obtain rfl := Except.ok.inj h'
    exact ht
  | cons op ops ih =>
    obtain ⟨y, hy, hrun⟩ := run_cons_eq_ok_iff.1 h
    obtain ⟨y', hy', hrun'⟩ := run_cons_eq_ok_iff.1 h'
    rw [DateExpression.reversed, hy, hy']
    exact ih (reached_of_apply ht hy hy') hrun hrun'

/-! ## Operations that keep the order -/

/-- Whether an operation leaves the time of day alone, or rounds it. -/
def Operation.keepsClock : Operation → Bool
  | round _ => true
  | move _ u => !u.isExact

/-- Whether an operation is a move. -/
def Operation.isMove : Operation → Bool
  | round _ => false
  | move _ _ => true

/-- Two times, the second one of which is not earlier in its day. -/
structure ClocksInOrder (offset : Int) (t t' : ZonedTime) : Prop where
  /-- The first one is not in a leap second. -/
  lower : t.instant.nanos < nanosPerSecond
  /-- The second one is not in a leap second. -/
  upper : t'.instant.nanos < nanosPerSecond
  /-- The times of day. -/
  clocks : (t.instant.seconds + offset) % 86400 ≤ (t'.instant.seconds + offset) % 86400

/-- Units of the calendar start at midnight. -/
lemma boundary_emod {u : DateUnit} (hu : u.isExact = false) (k : Int) :
    boundary ⟨1, u⟩ k % 86400 = 0 := by
  cases u with
  | year | month => exact Int.mul_emod_left _ _
  | week =>
    show (k * 604800 - 259200) % 86400 = 0
    omega
  | day =>
    show (k * 86400 - 0) % 86400 = 0
    omega
  | hour | minute | second => cases hu

/-- Rounding leads to times of day in order. -/
lemma clocksInOrder_of_round {u : DateUnit}
    (ht : (t.instant.seconds + offset) % 86400 ≤ (t'.instant.seconds + offset) % 86400)
    (h : u.floor t (.fixed offset) = .ok x) (h' : u.ceil t' (.fixed offset) = .ok x') :
    ClocksInOrder offset x x' := by
  have hx := DateUnit.instant_of_floor h
  have hx' := DateUnit.instant_of_ceil h'
  have hnanos : x.instant.nanos = 0 ∧ x'.instant.nanos = 999000000 := by
    rw [hx, hx']
    exact ⟨rfl, rfl⟩
  refine ⟨by rw [hnanos.1]; decide, by rw [hnanos.2]; decide, ?_⟩
  rw [hx, hx']
  dsimp only
  rw [Int.sub_add_cancel]
  generalize t.instant.seconds + offset = w at *
  generalize t'.instant.seconds + offset = w' at *
  cases hu : u.isExact with
  | false =>
    have hlow := boundary_emod hu (index ⟨1, u⟩ w)
    have hhigh := boundary_emod hu (index ⟨1, u⟩ w' + 1)
    omega
  | true =>
    cases u with
    | year | month | week | day => cases hu
    | hour =>
      show ((w + 0) / 3600 * 3600 - 0) % 86400 ≤
        (((w' + 0) / 3600 + 1) * 3600 - 0 - offset - 1 + offset) % 86400
      omega
    | minute =>
      show ((w + 0) / 60 * 60 - 0) % 86400 ≤
        (((w' + 0) / 60 + 1) * 60 - 0 - offset - 1 + offset) % 86400
      omega
    | second =>
      show ((w + 0) / 1 * 1 - 0) % 86400 ≤
        (((w' + 0) / 1 + 1) * 1 - 0 - offset - 1 + offset) % 86400
      omega

/-- Moves by units of the calendar keep the time of day. -/
lemma clock_of_move {u : DateUnit} {n : Int} (hu : u.isExact = false)
    (hnanos : t.instant.nanos < nanosPerSecond) (h : u.add t n (.fixed offset) = .ok x) :
    x.instant.nanos = t.instant.nanos ∧
      (x.instant.seconds + offset) % 86400 = (t.instant.seconds + offset) % 86400 := by
  cases hs : u.seconds? with
  | some length =>
    obtain ⟨-, hx, -⟩ := DateUnit.add_fixed_of_seconds hs hnanos ((DateUnit.add_localize t).trans h)
    have hdays : length % 86400 = 0 := by
      cases u with
      | year | month => cases hs
      | week | day =>
        obtain rfl := Option.some.inj hs
        rfl
      | hour | minute | second => cases hu
    obtain ⟨k, rfl⟩ := Int.dvd_of_emod_eq_zero hdays
    rw [hx]
    refine ⟨rfl, ?_⟩
    show (t.instant.seconds + n * (86400 * k) + offset) % 86400 = _
    have hmove : t.instant.seconds + n * (86400 * k) + offset =
        t.instant.seconds + offset + 86400 * (n * k) := by ring
    rw [hmove, Int.add_mul_emod_self_left]
  | none =>
    obtain ⟨-, hx⟩ := DateUnit.instant_of_add_months hs h
    rw [hx]
    refine ⟨rfl, ?_⟩
    dsimp only
    rw [Int.sub_add_cancel]
    show (_ * 86400 + (t.instant.seconds + offset) % 86400) % 86400 = _
    omega

/-- Without moves by hours, minutes or seconds, times in order stay in order. -/
lemma reversed_of_keepsClock (hops : ∀ op ∈ ops, op.keepsClock = true) (ht : Reached false t t')
    (hclocks : ClocksInOrder offset t t') : reversed (.fixed offset) t t' false ops = false := by
  induction ops generalizing t t' with
  | nil => rfl
  | cons op ops ih =>
    obtain ⟨hop, hops⟩ := List.forall_mem_cons.1 hops
    have hkept : op.reversed (.fixed offset) t t' false = false := by
      cases op with
      | round u =>
        have hindex := Interval.index_mono (i := ⟨1, u⟩) DateUnit.count_one_pos
          (Int.add_le_add_right ht.seconds_le offset)
        have hmono := Interval.boundary_mono (i := ⟨1, u⟩) DateUnit.count_one_pos hindex
        exact Bool.eq_false_iff.2 (mt Operation.reversed_round_iff.1 (Int.not_lt.2 hmono))
      | move n u =>
        have hclock : ¬ (t'.instant.wallTime offset).secondOfDay <
            (t.instant.wallTime offset).secondOfDay := Int.not_lt.2 hclocks.clocks
        rw [Operation.reversed]
        exact ite_eq_right_iff.2 fun _ => decide_eq_false hclock
    rw [reversed, hkept]
    split
    · rename_i x x' hx hx'
      have hreached := hkept ▸ Operation.reached_of_apply ht hx hx'
      refine ih hops hreached ?_
      cases op with
      | round u => exact clocksInOrder_of_round hclocks.clocks hx hx'
      | move n u =>
        have hu : u.isExact = false := by
          simpa [Operation.keepsClock] using hop
        obtain ⟨hnanos, hclock⟩ := clock_of_move hu hclocks.lower hx
        obtain ⟨hnanos', hclock'⟩ := clock_of_move hu hclocks.upper hx'
        refine ⟨hnanos ▸ hclocks.lower, hnanos' ▸ hclocks.upper, ?_⟩
        rw [hclock, hclock']
        exact hclocks.clocks
    · rfl

/-- **Moves by hours, minutes and seconds in front of the first rounding** do not reverse the order:
up to there both runs are the same, and from there on the times of day stay in order. -/
theorem reversed_of_dropWhile
    (hops : ∀ op ∈ ops.dropWhile Operation.isMove, op.keepsClock = true) :
    reversed (.fixed offset) t t false ops = false := by
  induction ops generalizing t with
  | nil => rfl
  | cons op ops ih =>
    have hkept : op.reversed (.fixed offset) t t false = false := by
      cases op with
      | round u => exact decide_eq_false (lt_irrefl _)
      | move n u => exact ite_eq_right_iff.2 fun _ => decide_eq_false (lt_irrefl _)
    rw [reversed, hkept]
    split
    · rename_i x x' hx hx'
      cases op with
      | round u =>
        exact reversed_of_keepsClock (fun op hop => hops op (List.mem_cons_of_mem _ hop))
          (hkept ▸ reached_of_round hx hx') (clocksInOrder_of_round le_rfl hx hx')
      | move n u =>
        obtain rfl : x = x' := Except.ok.inj (hx.symm.trans hx')
        exact ih hops
    · rfl

end DateExpression

end Sift
