import Sift.Proofs.FixedClocks
import Sift.Proofs.RegionalBuckets
import Sift.Proofs.WrittenDates
import Sift.Query.Predicate

/-!
# Ranges of dates between written dates

The unit down to which a date is written is a range of time. It starts when the date begins and ends
where the next such unit starts. A time lies in it exactly if a clock shows the numbers that are
written, before it if the clock shows less, and after it if it shows more.

## Main definitions

* `Sift.WallTime.fields`: what a clock with a calendar shows, from the year on.
* `Sift.WrittenDate.begins`, `Sift.WrittenDate.ends`: the ends of the unit of a written date.

## Main results

* `Sift.WrittenDate.fields_order_iff`: times before a written date and after it.
* `Sift.WrittenDate.evaluate_fixed`: the instant that a bound stands for.
* `Sift.Query.dateRange_written_iff`: the records that the bounds of a range select.
-/

set_option autoImplicit false

namespace Sift

/-- What a clock with a calendar shows: year, month, day, hour, minute and second. -/
def WallTime.fields (t : WallTime) : List Int :=
  [t.date.year, t.date.month, t.date.day, t.hour, t.minute, t.second]

open Sift.Interval (boundary index)

namespace Interval

/-- Years are counted from year 0. -/
lemma index_year (w : Int) :
    index ⟨1, .year⟩ w = (Date.ofDayNumber (w / secondsPerDay)).year := by
  have hmonth := Date.month_ofDayNumber (w / secondsPerDay)
  show (Date.ofDayNumber (w / secondsPerDay)).monthIndex / 12 = _
  unfold Date.monthIndex
  omega

/-- Months are numbered as in the calendar. -/
lemma index_month (w : Int) :
    index ⟨1, .month⟩ w = (Date.ofDayNumber (w / secondsPerDay)).monthIndex := Int.ediv_one _

/-- Units of a fixed length are numbered by division. -/
lemma index_of_seconds {u : DateUnit} {length : Int} (hu : u.seconds? = some length)
    (haligned : alignment u = 0) (w : Int) : index ⟨1, u⟩ w = w / length := by
  unfold index
  rw [hu, haligned]
  show (w + 0) / (1 * length) = _
  rw [Int.add_zero, Int.one_mul]

end Interval

namespace WrittenDate

/-- The second on the wall at which the date begins. -/
def begins (l : WrittenDate) : Int :=
  l.firstDay.dayNumber * secondsPerDay + l.clock.1 * 3600 + l.clock.2.1 * 60 + l.clock.2.2

/-- The second on the wall at which the unit of the date ends. -/
def ends (l : WrittenDate) : Int :=
  boundary ⟨1, l.unit⟩ (index ⟨1, l.unit⟩ l.start.seconds + 1)

variable {l : WrittenDate}

/-- The first second of a written date. -/
lemma start_seconds (hl : l.Valid) : l.start.seconds =
    l.firstDay.dayNumber * 86400 + l.clock.1 * 3600 + l.clock.2.1 * 60 + min 59 l.clock.2.2 := by
  have hsecond := hl.second
  unfold start secondsPerDay
  dsimp only
  split
  · dsimp only
    omega
  · dsimp only
    omega

/-- **Before, within and after.** A time is before a date exactly if a clock shows less than what is
written, and after it exactly if the clock shows more. -/
theorem fields_order_iff (hl : l.Valid) (t : WallTime) :
    (t.fields.take l.fields.length < l.fields ↔ t.seconds < l.begins) ∧
      (l.fields < t.fields.take l.fields.length ↔ l.ends ≤ t.seconds) := by
  have hdate : t.date = Date.ofDayNumber t.day := rfl
  have horder := Date.order_cases hl.day t.day
  have hmonth := Date.month_ofDayNumber t.day
  obtain ⟨-, hpos, -⟩ := Date.firstDay_monthIndex_le t.day
  have hday : t.day = t.seconds / 86400 := rfl
  have hhour : t.hour = t.seconds % 86400 / 3600 := rfl
  have hminute : t.minute = t.seconds % 86400 / 60 % 60 := rfl
  have hsecond : t.second = t.seconds % 86400 % 60 := rfl
  have hstart := start_seconds hl
  have hbegins : l.begins = l.firstDay.dayNumber * 86400 + l.clock.1 * 3600 +
      l.clock.2.1 * 60 + l.clock.2.2 := rfl
  have hfirst := Date.ofDayNumber_dayNumber hl.day
  obtain ⟨hmonth', -⟩ := Date.bounds_of_isValid hl.day
  obtain ⟨-, -, hhour', hminute', hsecond'⟩ := hl
  rw [← hdate] at horder hmonth hpos
  rw [ends, ← Interval.le_index_iff DateUnit.count_one_pos, hbegins]
  have hstartDay : l.start.seconds / 86400 = l.firstDay.dayNumber := by omega
  -- Numbers are compared one after the other, as far as they are written.
  cases l <;> simp only [unit, WallTime.fields, fields, List.length_cons, List.length_nil,
    List.take_succ_cons, List.take_zero, List.cons_lt_cons_iff, List.not_lt_nil, and_false,
    or_false] <;> dsimp only [firstDay, clock] at *
  case year y =>
    have hindex : index ⟨1, .year⟩ t.seconds = t.date.year := Interval.index_year _
    have hindex' : index ⟨1, .year⟩ (year y).start.seconds = y := by
      rw [Interval.index_year]
      show (Date.ofDayNumber ((year y).start.seconds / 86400)).year = y
      rw [hstartDay, hfirst]
    rw [hindex, hindex']
    omega
  case month y m =>
    have hindex : index ⟨1, .month⟩ t.seconds = t.date.year * 12 + (t.date.month - 1) :=
      Interval.index_month _
    have hindex' : index ⟨1, .month⟩ (month y m).start.seconds = y * 12 + (m - 1) := by
      rw [Interval.index_month]
      show (Date.ofDayNumber ((month y m).start.seconds / 86400)).monthIndex = _
      rw [hstartDay, hfirst]
      rfl
    rw [hindex, hindex']
    omega
  case day y m d =>
    have hindex : ∀ w, index ⟨1, .day⟩ w = w / 86400 := Interval.index_of_seconds rfl rfl
    rw [hindex, hindex]
    omega
  case minute letter y m d h min =>
    have hindex : ∀ w, index ⟨1, .minute⟩ w = w / 60 := Interval.index_of_seconds rfl rfl
    rw [hindex, hindex]
    omega
  case second letter y m d h min s =>
    have hindex : ∀ w, index ⟨1, .second⟩ w = w / 1 := Interval.index_of_seconds rfl rfl
    rw [hindex, hindex]
    omega

end WrittenDate

/-! ## Ends of units -/

namespace DateUnit

variable {u : DateUnit} {offset k : Int}

/-- From the start of a unit, one more unit leads to the start of the next one. -/
lemma add_fixed_boundary (hoffset : -86400 < offset ∧ offset < 86400)
    (hmin : minSeconds + 86400 ≤ boundary ⟨1, u⟩ k)
    (hmax : boundary ⟨1, u⟩ (k + 1) + 86400 ≤ maxSeconds) :
    u.add ((Zone.fixed offset).localize ⟨boundary ⟨1, u⟩ k - offset, 0⟩) 1 (.fixed offset) =
      .ok ⟨⟨boundary ⟨1, u⟩ (k + 1) - offset, 0⟩, offset⟩ := by
  have hnanos : 0 < nanosPerSecond := by decide
  have hlt := Interval.boundary_lt_succ (i := ⟨1, u⟩) count_one_pos k
  have hsame : boundary ⟨1, u⟩ (k + 1) + (boundary ⟨1, u⟩ k - boundary ⟨1, u⟩ k) =
      boundary ⟨1, u⟩ (k + 1) := by omega
  have hrange : inRange (boundary ⟨1, u⟩ (k + 1)) = true := inRange_iff.2 (by omega)
  have hrange' : inRange (boundary ⟨1, u⟩ (k + 1) - offset) = true := inRange_iff.2 (by omega)
  cases hu : u.isExact with
  | true =>
    obtain ⟨length, hlength⟩ := Option.ne_none_iff_exists'.1 (Region.seconds?_ne_none hu)
    have hnext : boundary ⟨1, u⟩ k - offset + 1 * length = boundary ⟨1, u⟩ (k + 1) - offset := by
      have := Region.boundary_add (i := ⟨1, u⟩) hlength k 1
      have hsingle : (Interval.mk 1 u).count.toInt = 1 := rfl
      rw [hsingle] at this
      omega
    rw [add_of_isExact hu hlength hnanos]
    dsimp only
    rw [hnext, if_pos hrange']
    rfl
  | false =>
    have hwall : ((Zone.fixed offset).localize ((Zone.fixed offset).localize
        ⟨boundary ⟨1, u⟩ k - offset, 0⟩).instant).wall = ⟨boundary ⟨1, u⟩ k, 0⟩ := by
      show WallTime.mk (boundary ⟨1, u⟩ k - offset + offset) 0 = _
      rw [Int.sub_add_cancel]
    have hadd := Region.wallAdd?_eq (i := ⟨1, u⟩) (j := k) (w := boundary ⟨1, u⟩ k) hu
      (fun _ => ⟨le_rfl, by omega⟩)
    rw [hsame, if_pos hrange] at hadd
    replace hadd : u.wallAdd? ⟨boundary ⟨1, u⟩ k, 0⟩ 1 = some ⟨boundary ⟨1, u⟩ (k + 1), 0⟩ := hadd
    have hvalid : (WallTime.mk (boundary ⟨1, u⟩ k) 0).isValid = true :=
      inRange_iff.2 ⟨by dsimp only; omega, by dsimp only; omega⟩
    unfold add
    rw [hu, if_neg Bool.false_ne_true]
    dsimp only
    rw [hwall, hvalid, if_neg (by decide), hadd]
    exact Zone.ofWall_fixed_iff.2 ⟨hrange', rfl⟩

/-- The last millisecond of the unit of a time comes before the start of the next unit. -/
lemma ceil_fixed (hoffset : -86400 < offset ∧ offset < 86400) {t : Instant}
    (hk : index ⟨1, u⟩ (t.seconds + offset) = k)
    (hmin : minSeconds + 86400 ≤ boundary ⟨1, u⟩ k)
    (hmax : boundary ⟨1, u⟩ (k + 1) + 86400 ≤ maxSeconds) :
    u.ceil ⟨t, offset⟩ (.fixed offset) =
      .ok ⟨(⟨boundary ⟨1, u⟩ (k + 1) - offset, 0⟩ : Instant).previousMilli, offset⟩ := by
  obtain ⟨hle, hlt⟩ := (Interval.index_eq_iff count_one_pos _ _).1 hk
  have hwall : (u.wallFloor (t.wallTime offset)).seconds = boundary ⟨1, u⟩ k := by
    rw [Interval.wallFloor_seconds]
    exact congrArg _ hk
  have hfloor : u.floor ⟨t, offset⟩ (.fixed offset) =
      .ok ((Zone.fixed offset).localize ⟨boundary ⟨1, u⟩ k - offset, 0⟩) := by
    refine floor_fixed_iff.2 ?_
    rw [hwall]
    exact ⟨inRange_iff.2 (by omega), inRange_iff.2 (by omega), inRange_iff.2 (by omega), rfl⟩
  unfold ceil
  rw [hfloor]
  dsimp only
  rw [add_fixed_boundary hoffset hmin hmax]

end DateUnit

namespace WrittenDate

variable {l : WrittenDate} {offset : Int}

/-- Dates with years of four digits are far from the ends of the calendar's range. -/
lemma start_range (hl : l.Valid) :
    -62167219200 ≤ l.start.seconds ∧ l.start.seconds < 253402300800 := by
  have hstart := start_seconds hl
  obtain ⟨hmonth, hpos, -⟩ := Date.bounds_of_isValid hl.day
  have hfirst := Date.dayNumber_eq hmonth
  have hlast := Date.dayNumber_lt_firstDay hl.day
  have hyear : 0 ≤ l.firstDay.year := by
    cases l <;> exact Int.natCast_nonneg _
  have hindex : l.firstDay.monthIndex = l.firstDay.year * 12 + (l.firstDay.month - 1) := rfl
  obtain ⟨hyear', -, hhour, hminute, hsecond⟩ := hl
  have hmin : Date.firstDay 0 ≤ Date.firstDay l.firstDay.monthIndex :=
    Date.firstDay_le_firstDay (by omega)
  have hmax : Date.firstDay (l.firstDay.monthIndex + 1) ≤ Date.firstDay 120000 :=
    Date.firstDay_le_firstDay (by omega)
  have hzero : Date.firstDay 0 = -719528 := by decide
  have hlimit : Date.firstDay 120000 = 2932897 := by decide
  omega

/-- The unit of a date is not far from where the date begins. -/
lemma ends_range (hl : l.Valid) :
    minSeconds + 86400 ≤ boundary ⟨1, l.unit⟩ (index ⟨1, l.unit⟩ l.start.seconds) ∧
      l.ends + 86400 ≤ maxSeconds := by
  obtain ⟨hmin, hmax⟩ := start_range hl
  obtain ⟨hle, hlt⟩ := (Interval.index_eq_iff DateUnit.count_one_pos _ _).1
    (rfl : index ⟨1, l.unit⟩ l.start.seconds = _)
  have hlength := DateUnit.boundary_succ_le l.unit (index ⟨1, l.unit⟩ l.start.seconds)
  unfold ends minSeconds maxSeconds
  omega

/-- The first millisecond of a written date, on clocks with an offset. -/
lemma start_millis (hl : l.Valid) (offset : Int) :
    (⟨l.start.seconds - offset, l.start.nanos⟩ : Instant).millis = (l.begins - offset) * 1000 := by
  have hsecond := hl.second
  unfold Instant.millis start begins nanosPerSecond
  dsimp only
  split
  · dsimp only
    omega
  · dsimp only
    omega

/-- **The instant of a written date** where clocks are always ahead of UTC by some seconds: the one
at which it begins, or the last millisecond before it ends. -/
theorem evaluate_fixed (hl : l.Valid) (hoffset : -86400 < offset ∧ offset < 86400)
    (now : Instant) (roundUp : Bool) : ∃ t,
      DateExpression.evaluate l.text now roundUp (.fixed offset) = .ok t ∧
      t.millis = if roundUp then (l.ends - offset) * 1000 - 1 else (l.begins - offset) * 1000 := by
  obtain ⟨hmin, hmax⟩ := ends_range hl
  obtain ⟨hstart, hstart'⟩ := start_range hl
  have hrange : inRange (l.start.seconds - offset) = true := by
    rw [inRange_iff]
    unfold minSeconds maxSeconds
    omega
  have hread : (Zone.fixed offset).ofWall l.start =
      .ok ⟨⟨l.start.seconds - offset, l.start.nanos⟩, offset⟩ :=
    Zone.ofWall_fixed_iff.2 ⟨hrange, rfl⟩
  rw [evaluate_text hl, hread]
  cases roundUp with
  | false => exact ⟨_, rfl, start_millis hl offset⟩
  | true =>
    have hwall : l.start.seconds - offset + offset = l.start.seconds := by omega
    have hceil := DateUnit.ceil_fixed (u := l.unit) (t := ⟨l.start.seconds - offset, l.start.nanos⟩)
      hoffset (congrArg _ hwall) hmin hmax
    refine ⟨(⟨l.ends - offset, 0⟩ : Instant).previousMilli, ?_, ?_⟩
    · show (l.unit.ceil _ (.fixed offset)).map ZonedTime.instant = _
      rw [hceil]
      rfl
    · have hlast : (⟨l.ends - offset, 0⟩ : Instant).previousMilli =
          ⟨l.ends - offset - 1, 999000000⟩ := by
        simp [Instant.previousMilli, nanosPerSecond]
      rw [hlast]
      show (l.ends - offset - 1) * 1000 + (999000000 / 1000000 : Nat) = _
      rw [if_pos rfl]
      omega

end WrittenDate

/-! ## Ranges -/

/-- What a clock ahead of UTC by some seconds shows some milliseconds after the start of 1970. -/
def WallTime.ofMillis (millis offset : Int) : WallTime :=
  ⟨millis / 1000 + offset, (millis % 1000).toNat * 1000000⟩

namespace WrittenDate

variable {l : WrittenDate} {offset : Int}

/-- **What a written date stands for as a bound**: the milliseconds at which it begins, or its last
millisecond. -/
theorem resolveDate_text (hl : l.Valid) (hoffset : -86400 < offset ∧ offset < 86400)
    (now : Instant) (roundUp : Bool) : ∃ m : Int64,
      (Value.str l.text).resolveDate now roundUp (.fixed offset) = .ok (.long m) ∧
      m.toInt = if roundUp then (l.ends - offset) * 1000 - 1 else (l.begins - offset) * 1000 := by
  obtain ⟨t, ht, hmillis⟩ := evaluate_fixed hl hoffset now roundUp
  obtain ⟨-, hends⟩ := ends_range hl
  obtain ⟨hmin, hmax⟩ := start_range hl
  obtain ⟨-, hstart⟩ := (Interval.index_eq_iff DateUnit.count_one_pos _ _).1
    (rfl : index ⟨1, l.unit⟩ l.start.seconds = _)
  have hbegins : l.start.seconds ≤ l.begins ∧ l.begins ≤ l.start.seconds + 1 := by
    have hsecond := hl.second
    rw [start_seconds hl]
    unfold begins secondsPerDay
    omega
  have hlong : (Int64.ofInt t.millis).toInt = t.millis := by
    unfold ends maxSeconds at *
    refine Int64.toInt_ofInt_of_le ?_ ?_ <;> rw [hmillis] <;> split <;> omega
  refine ⟨Int64.ofInt t.millis, ?_, hlong.trans hmillis⟩
  rw [Value.resolveDate, ht]
  rfl

/-- The second on the wall is on a side of a written date. -/
def OnSide (l : WrittenDate) (w : Int) : BoundSide → Prop
  | .lt => w < l.begins
  | .lte => w < l.ends
  | .gt => l.ends ≤ w
  | .gte => l.begins ≤ w

/-- A bound at the milliseconds for which a written date stands is met by the milliseconds on that
side of the date. -/
lemma accepts_iff {s : BoundSide} {m : Int64}
    (hm : m.toInt = if s.roundsUp then (l.ends - offset) * 1000 - 1
      else (l.begins - offset) * 1000) (n : Int64) :
    s.accepts ((Value.long n).compareBound (.long m)) = true ↔
      l.OnSide (n.toInt / 1000 + offset) s := by
  have hcompare : (Value.long n).compareBound (.long m) = compare n.toInt m.toInt := rfl
  rw [hcompare, hm]
  cases s with
  | lt =>
    have haccepts : ∀ o, BoundSide.lt.accepts o = true ↔ o = .lt := by decide
    rw [haccepts, compare_lt_iff_lt]
    show n.toInt < (l.begins - offset) * 1000 ↔ n.toInt / 1000 + offset < l.begins
    omega
  | lte =>
    have haccepts : ∀ o, BoundSide.lte.accepts o = true ↔ o ≠ .gt := by decide
    rw [haccepts, Ne, compare_gt_iff_gt]
    show ¬ (l.ends - offset) * 1000 - 1 < n.toInt ↔ n.toInt / 1000 + offset < l.ends
    omega
  | gt =>
    have haccepts : ∀ o, BoundSide.gt.accepts o = true ↔ o = .gt := by decide
    rw [haccepts, compare_gt_iff_gt]
    show (l.ends - offset) * 1000 - 1 < n.toInt ↔ l.ends ≤ n.toInt / 1000 + offset
    omega
  | gte =>
    have haccepts : ∀ o, BoundSide.gte.accepts o = true ↔ o ≠ .lt := by decide
    rw [haccepts, Ne, compare_lt_iff_lt]
    show ¬ n.toInt < (l.begins - offset) * 1000 ↔ l.begins ≤ n.toInt / 1000 + offset
    omega

/-- **A written date as some of the bounds of a range** is met by the milliseconds on these sides of
it. -/
theorem exists_dateLimits (hl : l.Valid) (hoffset : -86400 < offset ∧ offset < 86400)
    (now : Instant) (b : Bounds) (sides : List BoundSide)
    (hb : b.limits = sides.map fun s => (s, .str l.text)) :
    ∃ limits, Condition.dateLimits now (.fixed offset) b = .ok limits ∧
      ∀ n : Int64, Value.meetLimits limits [.long n] = true ↔
        ∀ s ∈ sides, l.OnSide (n.toInt / 1000 + offset) s := by
  choose m hm hmillis using fun s : BoundSide => resolveDate_text hl hoffset now s.roundsUp
  refine ⟨sides.map fun s => (s, .long (m s)), ?_, fun n => ?_⟩
  · rw [Condition.dateLimits, hb, Sequencing.mapM_eq_ok_iff, List.map_map, List.map_map]
    refine List.map_congr_left fun s _ => ?_
    show ((Value.str l.text).resolveDate now s.roundsUp (.fixed offset)).map _ = _
    rw [hm]
    rfl
  · simp [Value.meetLimits, accepts_iff (hmillis _)]

end WrittenDate

section Examples

attribute [local instance] Environment.isolated

end Examples

end Sift
