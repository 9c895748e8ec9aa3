import Mathlib.Tactic.Ring
import Sift.Proofs.CheckedStarts

/-!
# Intervals of time follow each other

On clocks that always keep the same distance from UTC, the intervals of a length follow each other
without a gap: each of them ends where the next one starts. They can be numbered, by counting them
from a Monday before 1970, from the start of 1970 or from the start of year 0, and the number of
the interval of a time is the last one that has started by then. Rounding finds its start, and
moving the start by the length finds the start of the next one.

## Main definitions

* `Sift.Interval.boundary`: where the interval with a number starts.
* `Sift.Interval.index`: the number of the interval of a time.

## Main results

* `Sift.Interval.le_index_iff`: the interval of a time is the last one that has started.
* `Sift.Interval.bucketStart_fixed_iff`: rounding finds the start of the interval.
* `Sift.Interval.instant_of_add`: an interval ends where the next one starts.
* `Sift.Interval.bucketStart_iff_between`: a time has the start of an interval exactly if it lies
  between the start and the end.
-/

set_option autoImplicit false

namespace Sift

namespace Interval

variable {i : Interval}

/-- The second on the wall at which the interval with a number starts. -/
def boundary (i : Interval) (j : Int) : Int :=
  match i.unit.seconds? with
  | some s => j * (i.count.toInt * s) - alignment i.unit / 1000
  | none => Date.firstDay (j * i.months) * secondsPerDay

/-- The number of the interval in which a second on the wall lies. -/
def index (i : Interval) (w : Int) : Int :=
  match i.unit.seconds? with
  | some s => (w + alignment i.unit / 1000) / (i.count.toInt * s)
  | none => (Date.ofDayNumber (w / secondsPerDay)).monthIndex / i.months

/-- Intervals of months start with the first day of a month. -/
lemma boundary_of_months (hs : i.unit.seconds? = none) (j : Int) :
    i.boundary j = Date.firstDay (j * i.months) * secondsPerDay := by
  rw [boundary, hs]

/-- **The interval of a time is the last one that has started.** -/
theorem le_index_iff (hcount : 0 < i.count.toInt) (j w : Int) :
    j ≤ i.index w ↔ i.boundary j ≤ w := by
  rw [index, boundary]
  cases hs : i.unit.seconds? with
  | some s =>
    have hlength : 0 < i.count.toInt * s := Int.mul_pos hcount (seconds?_pos hs)
    dsimp only
    rw [Int.le_ediv_iff_mul_le hlength]
    omega
  | none =>
    dsimp only
    rw [Int.le_ediv_iff_mul_le (months_pos hcount), Date.le_monthIndex_iff,
      Int.le_ediv_iff_mul_le (by decide)]

/-- A time lies in an interval exactly if it lies between its start and the next one. -/
lemma index_eq_iff (hcount : 0 < i.count.toInt) (j w : Int) :
    i.index w = j ↔ i.boundary j ≤ w ∧ w < i.boundary (j + 1) := by
  rw [← le_index_iff hcount, ← Int.not_le, ← le_index_iff hcount]
  omega

/-- Boundaries follow each other. -/
lemma boundary_mono (hcount : 0 < i.count.toInt) {j k : Int} (h : j ≤ k) :
    i.boundary j ≤ i.boundary k :=
  (le_index_iff hcount _ _).1 (h.trans ((le_index_iff hcount _ _).2 le_rfl))

/-- Intervals are not empty. -/
lemma boundary_lt_succ (hcount : 0 < i.count.toInt) (j : Int) :
    i.boundary j < i.boundary (j + 1) := by
  cases hs : i.unit.seconds? with
  | some seconds =>
    have hlength := Int.mul_pos hcount (seconds?_pos hs)
    simp only [boundary, hs, Int.add_mul, Int.one_mul]
    omega
  | none =>
    have hmonths := months_pos hcount
    have hfirst : Date.firstDay (j * i.months) < Date.firstDay ((j + 1) * i.months) := by
      apply Date.firstDay_lt_firstDay
      rw [Int.add_mul]
      omega
    rw [boundary_of_months hs, boundary_of_months hs]
    unfold secondsPerDay
    omega

/-- Later times lie in later intervals. -/
lemma index_mono (hcount : 0 < i.count.toInt) {w w' : Int} (h : w ≤ w') :
    i.index w ≤ i.index w' :=
  (le_index_iff hcount _ _).2 (((le_index_iff hcount _ _).1 le_rfl).trans h)

end Interval

/-! ## Rounding -/

/-- On a clock that is ahead of UTC by some seconds, times are taken back by these seconds. -/
lemma Zone.ofWall_fixed_iff {offset : Int} {w : WallTime} {s : ZonedTime} :
    (Zone.fixed offset).ofWall w = .ok s ↔
      inRange (w.seconds - offset) = true ∧ s = ⟨⟨w.seconds - offset, w.nanos⟩, offset⟩ := by
  unfold ofWall ofWall? WallTime.instant?
  by_cases hrange : inRange (w.seconds - offset) = true
  · simp [hrange, eq_comm]
  · simp [hrange]

/-- Rounding a time to a unit, on such a clock. -/
lemma DateUnit.floor_fixed_iff {u : DateUnit} {t : Instant} {offset : Int} {s : ZonedTime} :
    u.floor ((Zone.fixed offset).localize t) (.fixed offset) = .ok s ↔
      inRange (t.seconds + offset) = true ∧
        inRange (u.wallFloor (t.wallTime offset)).seconds = true ∧
        inRange ((u.wallFloor (t.wallTime offset)).seconds - offset) = true ∧
        s = ⟨⟨(u.wallFloor (t.wallTime offset)).seconds - offset, 0⟩, offset⟩ := by
  have hwall : ((Zone.fixed offset).localize t).wall = t.wallTime offset := rfl
  have hzone : ((Zone.fixed offset).localize t).offset = offset := rfl
  have hsame : (Zone.fixed offset).localize ((Zone.fixed offset).localize t).instant =
      (Zone.fixed offset).localize t := rfl
  have hshown : (t.wallTime offset).isValid = inRange (t.seconds + offset) := rfl
  have hstart : (u.wallFloor (t.wallTime offset)).isValid =
      inRange (u.wallFloor (t.wallTime offset)).seconds := rfl
  have hnanos := u.wallFloor_nanos (t.wallTime offset)
  unfold floor
  dsimp only
  rw [hsame, hwall, hzone, hshown, hstart]
  cases inRange (t.seconds + offset) with
  | false => simp
  | true =>
    cases inRange (u.wallFloor (t.wallTime offset)).seconds with
    | false => simp
    | true => simp [Zone.ofWall_fixed_iff, hnanos]

namespace Interval

variable {i : Interval} {t s : Instant} {offset : Int}

/-- A single unit starts where the interval of one unit starts. -/
lemma wallFloor_seconds (u : DateUnit) (w : WallTime) :
    (u.wallFloor w).seconds = boundary ⟨1, u⟩ (index ⟨1, u⟩ w.seconds) := by
  have hmonth := Date.month_ofDayNumber w.day
  cases u with
  | year =>
    have hyear : w.date.monthIndex / 12 = w.date.year := by
      unfold Date.monthIndex WallTime.date
      omega
    have hindex : index ⟨1, .year⟩ w.seconds = w.date.year := hyear
    show Date.dayNumber ⟨w.date.year, 1, 1⟩ * secondsPerDay =
      Date.firstDay (index ⟨1, .year⟩ w.seconds * 12) * secondsPerDay
    have hfirst : w.date.year * 12 / 12 = w.date.year ∧ w.date.year * 12 % 12 + 1 = 1 := by omega
    rw [hindex, Date.firstDay, hfirst.1, hfirst.2]
  | month =>
    have hindex : index ⟨1, .month⟩ w.seconds = w.date.monthIndex := Int.ediv_one _
    show Date.dayNumber ⟨w.date.year, w.date.month, 1⟩ * secondsPerDay =
      Date.firstDay (index ⟨1, .month⟩ w.seconds * 1) * secondsPerDay
    have hfirst : w.date.monthIndex / 12 = w.date.year ∧
        w.date.monthIndex % 12 + 1 = w.date.month := by
      unfold Date.monthIndex WallTime.date
      omega
    rw [hindex, Int.mul_one, Date.firstDay, hfirst.1, hfirst.2]
  | week =>
    show (w.seconds / 86400 - (w.seconds / 86400 + 3) % 7) * 86400 =
      (w.seconds + 259200) / 604800 * 604800 - 259200
    omega
  | day =>
    show w.seconds / 86400 * 86400 = (w.seconds + 0) / 86400 * 86400 - 0
    omega
  | hour =>
    show w.seconds - w.seconds % 3600 = (w.seconds + 0) / 3600 * 3600 - 0
    omega
  | minute =>
    show w.seconds - w.seconds % 60 = (w.seconds + 0) / 60 * 60 - 0
    omega
  | second =>
    show w.seconds = (w.seconds + 0) / 1 * 1 - 0
    omega

/-- The length of the interval is far from the ends of 64 bits. -/
structure Fits (i : Interval) : Prop where
  /-- In milliseconds. -/
  millis {seconds : Int} (hs : i.unit.seconds? = some seconds) :
    i.count.toInt * seconds * 1000 < 2 ^ 62
  /-- In months. -/
  months (hs : i.unit.seconds? = none) : i.months < 2 ^ 62

/-- The milliseconds of several units of fixed length. -/
lemma exactMillis_eq (i : Interval) (seconds : Int) :
    i.exactMillis seconds = i.count.toInt * seconds * 1000 := by
  unfold exactMillis
  ring

/-- **The start of several units of fixed length**, if the length is far from the ends of 64 bits.
-/
theorem Fits.bucketStart_of_seconds (hfits : i.Fits) (hcount : 0 < i.count.toInt)
    (hone : i.count ≠ 1) {seconds : Int} (hs : i.unit.seconds? = some seconds) {z : Zone}
    (hmillis : -2 ^ 53 < t.millis ∧ t.millis < 2 ^ 53)
    (hz : -86400 < z.offsetAt t ∧ z.offsetAt t < 86400) :
    i.bucketStart t z =
      match Instant.ofMillis? (fixedStart (i.count.toInt * seconds * 1000) (alignment i.unit)
        (z.offsetAt t * 1000) t.millis) with
      | some s => .ok s
      | none => .error (.bucketOutOfRange t) := by
  have hlength := hfits.millis hs
  rw [← exactMillis_eq] at hlength ⊢
  rcases Interval.bucketStart_of_seconds hcount hone hs (by omega) hmillis hz with
    ⟨⟨-, seconds', hs', -, -, hearly⟩, -⟩ | ⟨-, hstart⟩
  · -- A length that is far from the ends leaves room for the alignment and the offset.
    obtain rfl : seconds' = seconds := Option.some.inj (hs'.symm.trans hs)
    have halign := alignment_bounds i.unit
    omega
  · exact hstart

/-- The start of several units of fixed length is that of the interval with the number. -/
lemma fixedStart_eq (hcount : 0 < i.count.toInt) {seconds : Int}
    (hs : i.unit.seconds? = some seconds) (ht : t.nanos < nanosPerSecond) :
    fixedStart (i.count.toInt * seconds * 1000) (alignment i.unit) (offset * 1000) t.millis =
      (i.boundary (i.index (t.seconds + offset)) - offset) * 1000 := by
  have hlength : 0 < i.count.toInt * seconds := Int.mul_pos hcount (seconds?_pos hs)
  obtain ⟨a, halign, ha⟩ : ∃ a, alignment i.unit = a * 1000 ∧ alignment i.unit / 1000 = a := by
    refine ⟨alignment i.unit / 1000, ?_, rfl⟩
    unfold alignment
    split <;> rfl
  obtain ⟨m, hm, hmillis⟩ : ∃ m < 1000, t.millis = t.seconds * 1000 + (m : Nat) := by
    refine ⟨t.nanos / 1000000, ?_, ?_⟩
    · unfold nanosPerSecond at ht
      omega
    · unfold Instant.millis
      omega
  rw [fixedStart, boundary, index, hs, hmillis]
  dsimp only
  rw [ha, halign]
  generalize i.count.toInt * seconds = length at hlength ⊢
  -- The fraction of a second is what remains beside the seconds.
  have hwall : t.seconds * 1000 + (m : Int) + offset * 1000 + a * 1000 =
      (t.seconds + offset + a) * 1000 + m := by ring
  rw [hwall]
  generalize t.seconds + offset + a = x
  have hsplit : x % length + length * (x / length) = x := Int.emod_add_mul_ediv x length
  have hrest : (x * 1000 + m) % (length * 1000) = x % length * 1000 + m := by
    have hrange : 0 ≤ x % length ∧ x % length < length :=
      ⟨Int.emod_nonneg _ (by omega), Int.emod_lt_of_pos _ hlength⟩
    have hquotient : x * 1000 + m =
        (x % length * 1000 + m) + length * 1000 * (x / length) := by
      calc x * 1000 + (m : Int)
          = (x % length + length * (x / length)) * 1000 + m := by rw [hsplit]
        _ = (x % length * 1000 + m) + length * 1000 * (x / length) := by ring
    rw [hquotient, Int.add_mul_emod_self_left]
    exact Int.emod_eq_of_lt (by omega) (by omega)
  rw [hrest]
  have hfloor : x - x % length = x / length * length := by
    rw [Int.mul_comm]
    omega
  calc x * 1000 + (m : Int) - (x % length * 1000 + m) - a * 1000 - offset * 1000
      = (x - x % length - a - offset) * 1000 := by ring
    _ = (x / length * length - a - offset) * 1000 := by rw [hfloor]

/-- A time that is rounded to the month is still in its month. -/
lemma monthIndex_of_floor {f : ZonedTime}
    (h : DateUnit.month.floor ((Zone.fixed offset).localize t) (.fixed offset) = .ok f) :
    f.wall.date.monthIndex =
      (Date.ofDayNumber ((t.seconds + offset) / secondsPerDay)).monthIndex := by
  obtain ⟨-, -, -, rfl⟩ := DateUnit.floor_fixed_iff.1 h
  have hindex : index ⟨1, .month⟩ (t.wallTime offset).seconds =
      (Date.ofDayNumber ((t.seconds + offset) / secondsPerDay)).monthIndex := Int.ediv_one _
  generalize (Date.ofDayNumber ((t.seconds + offset) / secondsPerDay)).monthIndex = m at *
  have hseconds : (DateUnit.month.wallFloor (t.wallTime offset)).seconds =
      Date.firstDay (m * 1) * secondsPerDay := by
    rw [wallFloor_seconds, hindex]
    rfl
  rw [Int.mul_one] at hseconds
  have hwall : ∀ x, (ZonedTime.wall ⟨⟨x - offset, 0⟩, offset⟩).day = x / secondsPerDay := by
    intro x
    show (x - offset + offset) / secondsPerDay = _
    rw [Int.sub_add_cancel]
  rw [WallTime.date, hwall, hseconds, Int.mul_ediv_cancel _ (by decide), Date.ofDayNumber_firstDay,
    Date.monthIndex]
  dsimp only
  omega

/-- The start of an interval of several months is that of the interval with the number, if the
month of the time can be rounded to. -/
lemma monthStart_fixed_iff (hcount : 0 < i.count.toInt) (hlt : i.months < 2 ^ 63)
    (hs : i.unit.seconds? = none) {zt : ZonedTime} :
    i.monthStart ((Zone.fixed offset).localize t) (.fixed offset) = .ok zt ↔
      (∃ f, DateUnit.month.floor ((Zone.fixed offset).localize t) (.fixed offset) = .ok f) ∧
      Date.isValid ⟨i.index (t.seconds + offset) * i.months / 12,
        i.index (t.seconds + offset) * i.months % 12 + 1, 1⟩ = true ∧
      inRange (i.boundary (i.index (t.seconds + offset)) - offset) = true ∧
      zt = ⟨⟨i.boundary (i.index (t.seconds + offset)) - offset, 0⟩, offset⟩ := by
  rw [monthStart_eq hcount hlt]
  cases hfloor : DateUnit.month.floor ((Zone.fixed offset).localize t) (.fixed offset) with
  | error e => simp
  | ok f =>
    have hindex : i.index (t.seconds + offset) =
        (Date.ofDayNumber ((t.seconds + offset) / secondsPerDay)).monthIndex / i.months := by
      rw [index, hs]
    have haligned : f.wall.date.monthIndex - f.wall.date.monthIndex % i.months =
        i.index (t.seconds + offset) * i.months := by
      rw [monthIndex_of_floor hfloor, hindex, Int.mul_comm, sub_eq_iff_eq_add']
      exact (Int.emod_add_mul_ediv _ _).symm
    have hwall : (WallTime.ofDate ⟨i.index (t.seconds + offset) * i.months / 12,
        i.index (t.seconds + offset) * i.months % 12 + 1, 1⟩).seconds =
        i.boundary (i.index (t.seconds + offset)) := (boundary_of_months hs _).symm
    have hfound : ∃ f', (Except.ok f : Except DateError ZonedTime) = .ok f' := ⟨f, rfl⟩
    dsimp only
    rw [haligned, ofMonthIndex_eq_ok_iff, Zone.ofWall_fixed_iff, hwall, and_iff_right hfound]
    rfl

/-- The interval of a time on the wall has a start: it is in range, on the wall too for a single
unit, and for several months the months to which rounding goes on the way are. Single units and
months are found on clocks that can show the time. -/
structure Opens (i : Interval) (offset w : Int) : Prop where
  /-- The time, where clocks have to show it. -/
  shown : i.count = 1 ∨ i.unit.seconds? = none → inRange w = true
  /-- The start of the interval. -/
  start : inRange (i.boundary (i.index w) - offset) = true
  /-- The start of a single unit on the wall. -/
  single : i.count = 1 → inRange (i.boundary (i.index w)) = true
  /-- The first month of several. -/
  first : i.count ≠ 1 → i.unit.seconds? = none →
    Date.isValid ⟨i.index w * i.months / 12, i.index w * i.months % 12 + 1, 1⟩ = true
  /-- The month of the time. -/
  month : i.count ≠ 1 → i.unit.seconds? = none →
    inRange (boundary ⟨1, .month⟩ (index ⟨1, .month⟩ w)) = true ∧
      inRange (boundary ⟨1, .month⟩ (index ⟨1, .month⟩ w) - offset) = true

/-- What is done with a rounded time is done with a time that has been rounded. -/
lemma map_instant_eq_ok_iff {y : Except DateError ZonedTime} :
    y.map ZonedTime.instant = .ok s ↔ ∃ zt, y = .ok zt ∧ zt.instant = s := by
  cases y <;> simp [Except.map]

/-- The start of the interval with a number, in milliseconds. -/
lemma ofMillis?_start (j : Int) : Instant.ofMillis? ((i.boundary j - offset) * 1000) =
    if inRange (i.boundary j - offset) = true then some ⟨i.boundary j - offset, 0⟩ else none := by
  have hseconds : (i.boundary j - offset) * 1000 / 1000 = i.boundary j - offset := by omega
  have hfraction : (i.boundary j - offset) * 1000 % 1000 = 0 := by omega
  rw [Instant.ofMillis?, hseconds, hfraction]
  rfl

/-- **Rounding finds the start of the interval**, if it finds anything. -/
theorem opens_of_bucketStart (hcount : 0 < i.count.toInt) (ht : t.nanos < nanosPerSecond)
    (h : i.bucketStart t (.fixed offset) = .ok s) : i.Opens offset (t.seconds + offset) ∧
      s = ⟨i.boundary (i.index (t.seconds + offset)) - offset, 0⟩ := by
  by_cases hone : i.count = 1
  · obtain ⟨count, unit⟩ := i
    obtain rfl : count = 1 := hone
    unfold bucketStart at h
    rw [if_pos rfl, map_instant_eq_ok_iff] at h
    simp only [DateUnit.floor_fixed_iff, wallFloor_seconds] at h
    obtain ⟨zt, ⟨hshown, hwall, hstart, rfl⟩, rfl⟩ := h
    exact ⟨⟨fun _ => hshown, hstart, fun _ => hwall, fun h => absurd rfl h,
      fun h => absurd rfl h⟩, rfl⟩
  · cases hs : i.unit.seconds? with
    | some seconds =>
      have hunit : i.unit.seconds? ≠ none := hs ▸ Option.some_ne_none seconds
      unfold bucketStart at h
      rw [if_neg hone, hs] at h
      dsimp only [Zone.offsetAt] at h
      split at h
      · cases h
      · rename_i start hstart
        rw [eq_of_startMillis? hstart, exactMillis_eq, fixedStart_eq hcount hs ht,
          ofMillis?_start] at h
        by_cases hrange : inRange (i.boundary (i.index (t.seconds + offset)) - offset) = true
        · rw [if_pos hrange] at h
          exact ⟨⟨fun h => (h.elim hone hunit).elim, hrange, fun h => absurd h hone,
            fun _ h => absurd h hunit, fun _ h => absurd h hunit⟩, (Except.ok.inj h).symm⟩
        · rw [if_neg hrange] at h
          cases h
    | none =>
      rw [bucketStart_of_months hone hs, map_instant_eq_ok_iff] at h
      obtain ⟨zt, hzt, rfl⟩ := h
      rw [monthStart_fixed_iff hcount (months_lt_of_monthStart hcount hzt) hs] at hzt
      simp only [DateUnit.floor_fixed_iff, wallFloor_seconds] at hzt
      obtain ⟨⟨f, hshown, hmonth, hmonth', -⟩, hfirst, hstart, rfl⟩ := hzt
      exact ⟨⟨fun _ => hshown, hstart, fun h => absurd h hone, fun _ _ => hfirst,
        fun _ _ => ⟨hmonth, hmonth'⟩⟩, rfl⟩

/-- **Rounding finds the start of the interval**, where the interval has one. -/
theorem bucketStart_fixed_iff (hcount : 0 < i.count.toInt) (hfits : i.Fits)
    (hoffset : -86400 < offset ∧ offset < 86400) (hrange : inRange t.seconds = true)
    (ht : t.nanos < nanosPerSecond) :
    i.bucketStart t (.fixed offset) = .ok s ↔ i.Opens offset (t.seconds + offset) ∧
      s = ⟨i.boundary (i.index (t.seconds + offset)) - offset, 0⟩ := by
  refine ⟨opens_of_bucketStart hcount ht, ?_⟩
  rintro ⟨hopens, rfl⟩
  by_cases hone : i.count = 1
  · obtain ⟨count, unit⟩ := i
    obtain rfl : count = 1 := hone
    unfold bucketStart
    rw [if_pos rfl, map_instant_eq_ok_iff]
    simp only [DateUnit.floor_fixed_iff, wallFloor_seconds]
    exact ⟨_, ⟨hopens.shown (.inl rfl), hopens.single rfl, hopens.start, rfl⟩, rfl⟩
  · cases hs : i.unit.seconds? with
    | some seconds =>
      rw [hfits.bucketStart_of_seconds hcount hone hs (z := .fixed offset)
        (millis_bounds hrange (by omega)) hoffset]
      dsimp only [Zone.offsetAt]
      rw [fixedStart_eq hcount hs ht, ofMillis?_start, if_pos hopens.start]
    | none =>
      have hlt := hfits.months hs
      rw [bucketStart_of_months hone hs, map_instant_eq_ok_iff]
      simp only [monthStart_fixed_iff hcount (by omega : i.months < 2 ^ 63) hs,
        DateUnit.floor_fixed_iff, wallFloor_seconds]
      obtain ⟨hmonth, hmonth'⟩ := hopens.month hone hs
      exact ⟨_, ⟨⟨_, hopens.shown (.inr hs), hmonth, hmonth', rfl⟩, hopens.first hone hs,
        hopens.start, rfl⟩, rfl⟩

end Interval

/-! ## Ends -/

namespace DateUnit

variable {u : DateUnit} {t : Instant} {offset n : Int} {x : ZonedTime}

/-- Shifting by units of fixed length. Units of the calendar are shifted by on the wall. -/
lemma add_fixed_of_seconds {seconds : Int} (hs : u.seconds? = some seconds)
    (ht : t.nanos < nanosPerSecond)
    (h : u.add ((Zone.fixed offset).localize t) n (.fixed offset) = .ok x) :
    inRange (t.seconds + n * seconds) = true ∧
      x.instant = ⟨t.seconds + n * seconds, t.nanos⟩ ∧
      (u.isExact = false → inRange (t.seconds + offset + n * seconds) = true) := by
  cases hexact : u.isExact with
  | true =>
    rw [add_of_isExact hexact hs ht] at h
    split at h
    · rename_i hrange
      obtain rfl := Except.ok.inj h
      exact ⟨hrange, rfl, nofun⟩
    · cases h
  | false =>
    have hadd : u.wallAdd? (t.wallTime offset) n = (t.wallTime offset).shift? (n * seconds) := by
      cases u <;> simp_all [seconds?, isExact, wallAdd?, secondsPerDay]
    have hwall : ((Zone.fixed offset).localize ((Zone.fixed offset).localize t).instant).wall =
        t.wallTime offset := rfl
    unfold add at h
    rw [hexact, if_neg Bool.false_ne_true] at h
    dsimp only at h
    rw [hwall] at h
    split at h
    · cases h
    · rw [hadd, WallTime.shift?, Instant.wallTime, shiftSeconds_of_lt ht] at h
      dsimp only at h
      split at h
      · rename_i w hw
        split at hw
        · rename_i hshown
          obtain rfl := Option.some.inj hw
          obtain ⟨hrange, rfl⟩ := Zone.ofWall_fixed_iff.1 h
          have hseconds : t.seconds + offset + n * seconds - offset =
              t.seconds + n * seconds := by
            omega
          dsimp only at hrange ⊢
          rw [hseconds] at hrange ⊢
          exact ⟨hrange, rfl, fun _ => hshown⟩
        · cases hw
      · cases h

end DateUnit

namespace Interval

variable {i : Interval} {t s : Instant} {offset : Int} {x : ZonedTime}

/-- Shifting by months. -/
lemma add_fixed_of_months (hs : i.unit.seconds? = none)
    (h : i.unit.add ((Zone.fixed offset).localize t) i.count.toInt (.fixed offset) = .ok x) :
    ((t.wallTime offset).date.addMonths i.months).isValid = true ∧
      inRange (((t.wallTime offset).date.addMonths i.months).dayNumber * secondsPerDay +
        (t.wallTime offset).secondOfDay - offset) = true ∧
      x.instant = ⟨((t.wallTime offset).date.addMonths i.months).dayNumber * secondsPerDay +
        (t.wallTime offset).secondOfDay - offset, t.nanos⟩ := by
  have hexact : i.unit.isExact = false := by
    cases hu : i.unit <;> rw [hu] at hs <;> first | rfl | cases hs
  have hadd : i.unit.wallAdd? (t.wallTime offset) i.count.toInt =
      (t.wallTime offset).addMonths? i.months := by
    unfold months
    cases hu : i.unit <;> rw [hu] at hs <;> first | rfl | cases hs
  have hwall : ((Zone.fixed offset).localize ((Zone.fixed offset).localize t).instant).wall =
      t.wallTime offset := rfl
  unfold DateUnit.add at h
  rw [hexact, if_neg Bool.false_ne_true] at h
  dsimp only at h
  rw [hwall] at h
  split at h
  · cases h
  · rw [hadd, WallTime.addMonths?] at h
    by_cases hvalid : ((t.wallTime offset).date.addMonths i.months).isValid = true
    · rw [if_pos hvalid] at h
      obtain ⟨hrange, rfl⟩ := Zone.ofWall_fixed_iff.1 h
      exact ⟨hvalid, hrange, rfl⟩
    · rw [if_neg hvalid] at h
      cases h

/-- An interval that has an end is short enough for its length to be counted in 64 bits. -/
lemma fits_of_add (hrange : inRange t.seconds = true) (ht : t.nanos < nanosPerSecond)
    (hoffset : -86400 < offset)
    (h : i.unit.add ((Zone.fixed offset).localize t) i.count.toInt (.fixed offset) = .ok x) :
    i.Fits := by
  have hstart := inRange_iff.1 hrange
  unfold minSeconds maxSeconds at hstart
  refine ⟨fun {seconds} hs => ?_, fun hs => ?_⟩
  · obtain ⟨hend, -, -⟩ := DateUnit.add_fixed_of_seconds hs ht h
    replace hend := inRange_iff.1 hend
    unfold minSeconds maxSeconds at hend
    omega
  · obtain ⟨hvalid, -, -⟩ := add_fixed_of_months hs h
    have hyear : ((t.wallTime offset).date.monthIndex + i.months) / 12 ≤ Date.maxYear :=
      (Date.year_of_isValid hvalid).2
    have hindex : Date.minYear * 12 - 12 ≤ (t.wallTime offset).date.monthIndex := by
      have hfirst : Date.firstDay (Date.minYear * 12 - 12) = -96465658 := by decide
      have hday : -96465658 ≤ (t.seconds + offset) / 86400 := by omega
      exact (Date.le_monthIndex_iff _ _).2 (hfirst ▸ hday)
    unfold Date.maxYear at hyear
    unfold Date.minYear at hindex
    omega

/-- **An interval ends where the next one starts.** -/
theorem instant_of_add {j : Int} (h : i.unit.add ((Zone.fixed offset).localize
      ⟨i.boundary j - offset, 0⟩) i.count.toInt (.fixed offset) = .ok x) :
    x.instant = ⟨i.boundary (j + 1) - offset, 0⟩ ∧
      inRange (i.boundary (j + 1) - offset) = true ∧
      (i.unit.isExact = false → i.boundary (j + 1) ≤ maxSeconds) := by
  cases hs : i.unit.seconds? with
  | some seconds =>
    have hnanos : 0 < nanosPerSecond := by decide
    obtain ⟨hrange, hx, hwall⟩ := DateUnit.add_fixed_of_seconds hs hnanos h
    have hnext : i.boundary (j + 1) = i.boundary j + i.count.toInt * seconds := by
      rw [boundary, boundary, hs]
      dsimp only
      rw [Int.add_mul, Int.one_mul]
      omega
    have hlater : i.boundary j - offset + i.count.toInt * seconds =
        i.boundary (j + 1) - offset := by
      omega
    dsimp only at hrange hx hwall
    rw [hlater] at hrange hx
    refine ⟨hx, hrange, fun hexact => ?_⟩
    have hend := (inRange_iff.1 (hwall hexact)).2
    omega
  | none =>
    obtain ⟨hvalid, hrange, hx⟩ := add_fixed_of_months hs h
    have hwall : (Instant.wallTime ⟨i.boundary j - offset, 0⟩ offset).seconds =
        Date.firstDay (j * i.months) * secondsPerDay := by
      rw [← boundary_of_months hs]
      exact Int.sub_add_cancel _ _
    have hdate : (Instant.wallTime ⟨i.boundary j - offset, 0⟩ offset).date =
        ⟨j * i.months / 12, j * i.months % 12 + 1, 1⟩ := by
      rw [WallTime.date, WallTime.day, hwall, Int.mul_ediv_cancel _ (by decide),
        Date.ofDayNumber_firstDay]
    have hsecond : (Instant.wallTime ⟨i.boundary j - offset, 0⟩ offset).secondOfDay = 0 := by
      rw [WallTime.secondOfDay, hwall, Int.mul_emod_left]
    have hnext : j * i.months + i.months = (j + 1) * i.months := by ring
    rw [hdate, Date.addMonths_first, hnext] at hvalid hrange hx
    rw [hsecond, Int.add_zero] at hrange hx
    have hday : Date.dayNumber ⟨(j + 1) * i.months / 12, (j + 1) * i.months % 12 + 1, 1⟩ *
        secondsPerDay = i.boundary (j + 1) := (boundary_of_months hs _).symm
    rw [hday] at hrange hx
    refine ⟨hx, hrange, fun _ => ?_⟩
    have hlast := (Date.firstDay_of_isValid hvalid).2
    have hmax : Date.firstDay (Date.maxYear * 12 + 11) = 95026206 := by decide
    rw [hmax] at hlast
    rw [boundary_of_months hs]
    show _ * 86400 ≤ 8210266876799
    omega

/-- The month of a time does not start before an interval of months that has started by then. -/
lemma boundary_le_month (hs : i.unit.seconds? = none) {j w : Int} (h : i.boundary j ≤ w) :
    i.boundary j ≤ boundary ⟨1, .month⟩ (index ⟨1, .month⟩ w) := by
  have hsingle : 0 < (Interval.mk 1 .month).count.toInt := by decide
  have hboundary : i.boundary j = boundary ⟨1, .month⟩ (j * i.months) := by
    show _ = Date.firstDay (j * i.months * 1) * secondsPerDay
    rw [Int.mul_one, boundary_of_months hs]
  rw [hboundary]
  rw [hboundary] at h
  exact boundary_mono hsingle ((le_index_iff hsingle _ _).2 h)

/-- A single span of time that starts in range on the wall reaches no further than the range. -/
lemma boundary_succ_le_of_isExact {u : DateUnit} (hexact : u.isExact = true) {j : Int}
    (h : boundary ⟨1, u⟩ j ≤ maxSeconds) : boundary ⟨1, u⟩ (j + 1) ≤ maxSeconds + 1 := by
  have hone : (1 : Int64).toInt = 1 := rfl
  unfold maxSeconds at *
  cases u <;> simp only [DateUnit.isExact, Bool.false_eq_true] at hexact <;>
    simp only [boundary, DateUnit.seconds?, alignment, hone, reduceCtorEq, if_false] at h ⊢ <;>
    omega

/-- If one time of an interval has a start, so has every time of it, where the interval ends. -/
lemma Opens.of_index_eq (hcount : 0 < i.count.toInt) {w w' : Int} (h : i.Opens offset w)
    (hindex : i.index w' = i.index w) (hnext : inRange (i.boundary (i.index w + 1) - offset) = true)
    (hlast : i.unit.isExact = false → i.boundary (i.index w + 1) ≤ maxSeconds) :
    i.Opens offset w' := by
  obtain ⟨hge, hlt⟩ := (index_eq_iff hcount _ _).1 hindex
  have hcalendar (hs : i.unit.seconds? = none) : i.unit.isExact = false := by
    cases hu : i.unit <;> rw [hu] at hs <;> first | rfl | cases hs
  have hfirst (hone : i.count ≠ 1) (hs : i.unit.seconds? = none) :
      minSeconds ≤ i.boundary (i.index w) := by
    have hmin : Date.firstDay (Date.minYear * 12) = -96465292 := by decide
    have hfirst := (Date.firstDay_of_isValid (h.first hone hs)).1
    rw [hmin] at hfirst
    rw [boundary_of_months hs]
    show -8334601228800 ≤ _ * 86400
    omega
  refine ⟨fun hcase => ?_, hindex ▸ h.start, hindex ▸ h.single, hindex ▸ h.first,
    fun hone hs => ?_⟩
  · by_cases hone : i.count = 1
    · have hsingle := inRange_iff.1 (h.single hone)
      refine inRange_iff.2 ⟨by omega, ?_⟩
      cases hexact : i.unit.isExact with
      | true =>
        obtain ⟨count, unit⟩ := i
        obtain rfl : count = 1 := hone
        have hend := boundary_succ_le_of_isExact (u := unit) hexact hsingle.2
        omega
      | false =>
        have hend := hlast hexact
        omega
    · have hs := hcase.resolve_left hone
      have hstart := hfirst hone hs
      have hend := hlast (hcalendar hs)
      exact inRange_iff.2 (by omega)
  · have hsingle : 0 < (Interval.mk 1 .month).count.toInt := by decide
    -- The month starts within the interval.
    have hlower := boundary_le_month hs hge
    have hupper : boundary ⟨1, .month⟩ (index ⟨1, .month⟩ w') ≤ w' :=
      (le_index_iff hsingle _ _).1 le_rfl
    have hfirst := hfirst hone hs
    have hstart := inRange_iff.1 h.start
    have hend := inRange_iff.1 hnext
    have hmax := hlast (hcalendar hs)
    exact ⟨inRange_iff.2 (by omega), inRange_iff.2 (by omega)⟩

section

variable (hcount : 0 < i.count.toInt) (hoffset : -86400 < offset ∧ offset < 86400)
  {t₀ : Instant} (ht₀ : t₀.nanos < nanosPerSecond)
  (hstart : i.bucketStart t₀ (.fixed offset) = .ok s)
  (hend : i.unit.add ((Zone.fixed offset).localize s) i.count.toInt (.fixed offset) = .ok x)

include hcount hoffset ht₀ hstart hend

/-- A time has the start of an interval exactly if its second lies between the start and the
end. -/
lemma bucketStart_iff_seconds (ht : t.nanos < nanosPerSecond) :
    i.bucketStart t (.fixed offset) = .ok s ↔
      s.seconds ≤ t.seconds ∧ t.seconds < x.instant.seconds := by
  have hmillis := inMillis_of_bucketStart hstart
  have hfits := fits_of_add hmillis.range hmillis.nanos_lt hoffset.1 hend
  obtain ⟨hopens, rfl⟩ := opens_of_bucketStart hcount ht₀ hstart
  obtain ⟨hx, hnext, hlast⟩ := instant_of_add hend
  have hbetween := index_eq_iff (i := i) hcount (i.index (t₀.seconds + offset)) (t.seconds + offset)
  rw [hx]
  dsimp only
  constructor
  · intro h
    have hboundary := congrArg Instant.seconds (opens_of_bucketStart hcount ht h).2
    dsimp only at hboundary
    -- Each of the two intervals has started when the other one has.
    have hindex : i.index (t.seconds + offset) = i.index (t₀.seconds + offset) := by
      have hle := (le_index_iff hcount _ (t.seconds + offset)).1 le_rfl
      have hle₀ := (le_index_iff hcount _ (t₀.seconds + offset)).1 le_rfl
      exact le_antisymm ((le_index_iff hcount _ _).2 (by omega))
        ((le_index_iff hcount _ _).2 (by omega))
    have hlies := hbetween.1 hindex
    omega
  · intro h
    have hindex := hbetween.2 (by omega)
    have hlower := inRange_iff.1 hopens.start
    have hupper := inRange_iff.1 hnext
    have hrange : inRange t.seconds = true := inRange_iff.2 (by omega)
    rw [bucketStart_fixed_iff hcount hfits hoffset hrange ht]
    exact ⟨hopens.of_index_eq hcount hindex hnext hlast, by rw [hindex]⟩

/-- **Milliseconds have the start of an interval exactly if they lie between the start and the
end**, if the start is that of some time. -/
theorem bucketStart_iff_between (n : Int) :
    (∃ t, Instant.ofMillis? n = some t ∧ i.bucketStart t (.fixed offset) = .ok s) ↔
      s.millis ≤ n ∧ n < x.instant.millis := by
  have hseconds : ∀ y : Instant, y.nanos = 0 → y.millis = y.seconds * 1000 := by
    intro y hy
    rw [Instant.millis, hy]
    omega
  obtain ⟨hopens, hs⟩ := opens_of_bucketStart hcount ht₀ hstart
  obtain ⟨hx, hnext, -⟩ := instant_of_add (hs ▸ hend)
  have hlower := hseconds s (by rw [hs])
  have hupper := hseconds x.instant (by rw [hx])
  have hsrange := inRange_iff.1 (inMillis_of_bucketStart hstart).range
  have hxrange : inRange x.instant.seconds = true := by rw [hx]; exact hnext
  replace hxrange := inRange_iff.1 hxrange
  rw [hlower, hupper]
  have hn : ∀ t, Instant.ofMillis? n = some t → t.InMillis ∧ t.seconds = n / 1000 := by
    intro t ht
    refine ⟨Instant.inMillis_of_ofMillis? ht, ?_⟩
    unfold Instant.ofMillis? at ht
    split at ht
    · exact (congrArg Instant.seconds (Option.some.inj ht)).symm
    · cases ht
  constructor
  · rintro ⟨t, ht, hbucket⟩
    obtain ⟨hmillis, ht'⟩ := hn t ht
    have hlies :=
      (bucketStart_iff_seconds hcount hoffset ht₀ hstart hend hmillis.nanos_lt).1 hbucket
    omega
  · intro h
    have hrange : inRange (n / 1000) = true := inRange_iff.2 (by omega)
    refine ⟨_, if_pos hrange, ?_⟩
    refine (bucketStart_iff_seconds hcount hoffset ht₀ hstart hend ?_).2 ?_
    · exact (Instant.inMillis_of_ofMillis? (if_pos hrange)).nanos_lt
    · dsimp only
      omega

end

end Interval

end Sift
