import Sift.Proofs.IntervalTiling

/-!
# Buckets of time on clocks that keep their distance from UTC

On such clocks every interval of time, of whatever unit and count, cuts time into half-open buckets.
The bucket of a time contains it, all times of the bucket share its start, and its end starts the
next bucket. Rounding down to a unit is the case of a single unit, and rounding up gives the last
millisecond before the end.

Times in a leap second are left out: their fraction is a second or more, so that they count as
times of the second after theirs wherever milliseconds are counted.

## Main results

* `Sift.Interval.exists_index_of_bucketStart`: a bucket lies between two boundaries that follow each
  other.
* `Sift.Interval.buckets_tile_time`: buckets contain their times, are not split, and adjoin.
-/

set_option autoImplicit false

namespace Sift

namespace Instant

/-- Nanoseconds since the start of 1970. -/
def totalNanos (t : Instant) : Int := t.seconds * nanosPerSecond + t.nanos

/-- The last millisecond before an instant, in nanoseconds. -/
lemma totalNanos_previousMilli (t : Instant) :
    t.previousMilli.totalNanos = t.totalNanos - 1000000 := by
  have hsecond : 1000000 ≤ nanosPerSecond := by decide
  unfold previousMilli totalNanos
  split
  · rename_i hnanos
    simp only [Nat.cast_sub hnanos, Nat.cast_ofNat]
    ring
  · simp only [Nat.cast_sub (hsecond.trans (Nat.le_add_left _ t.nanos)), Nat.cast_add,
      Nat.cast_ofNat]
    ring

end Instant

/-! ## Buckets -/

namespace Interval

variable {i : Interval} {offset : Int} {t s x : Instant} {stop : ZonedTime}

section

variable (hcount : 0 < i.count.toInt) (ht : t.nanos < nanosPerSecond)
  (hs : i.bucketStart t (.fixed offset) = .ok s)
  (hstop : i.unit.add ((Zone.fixed offset).localize s) i.count.toInt (.fixed offset) = .ok stop)

include hcount ht hs hstop

/-- The bucket of a time lies between two boundaries that follow each other, and the time on the
wall between them. -/
theorem exists_index_of_bucketStart : ∃ j, s = ⟨i.boundary j - offset, 0⟩ ∧
    stop.instant = ⟨i.boundary (j + 1) - offset, 0⟩ ∧
    i.boundary j ≤ t.seconds + offset ∧ t.seconds + offset < i.boundary (j + 1) := by
  obtain ⟨-, rfl⟩ := opens_of_bucketStart hcount ht hs
  obtain ⟨hx, -, -⟩ := instant_of_add hstop
  exact ⟨_, rfl, hx, (index_eq_iff hcount _ _).1 rfl⟩

/-- **A bucket contains its time.** -/
theorem between_of_bucketStart : s ≤ t ∧ t < stop.instant := by
  obtain ⟨j, rfl, hx, hle, hlt⟩ := exists_index_of_bucketStart hcount ht hs hstop
  rw [hx]
  constructor
  · apply Instant.le_iff.2
    dsimp only
    omega
  · apply Instant.lt_iff.2
    dsimp only
    omega

/-- **A bucket is not split**: all times in it share its start. -/
theorem bucketStart_of_between (hoffset : -86400 < offset ∧ offset < 86400)
    (hx : x.nanos < nanosPerSecond) (hle : s ≤ x) (hlt : x < stop.instant) :
    i.bucketStart x (.fixed offset) = .ok s := by
  obtain ⟨j, hsj, hj, -, -⟩ := exists_index_of_bucketStart hcount ht hs hstop
  apply (bucketStart_iff_seconds hcount hoffset ht hs hstop hx).2
  rw [Instant.le_iff] at hle
  rw [Instant.lt_iff] at hlt
  rw [hsj] at hle ⊢
  rw [hj] at hlt ⊢
  dsimp only at hle hlt ⊢
  omega

/-- **The end of a bucket starts the next one**, if that has a start at all. -/
theorem eq_stop_of_bucketStart {next : Instant}
    (hnext : i.bucketStart stop.instant (.fixed offset) = .ok next) : next = stop.instant := by
  obtain ⟨j, -, hj, -, -⟩ := exists_index_of_bucketStart hcount ht hs hstop
  have hnanos : stop.instant.nanos < nanosPerSecond := by
    rw [hj]
    show 0 < nanosPerSecond
    decide
  obtain ⟨-, rfl⟩ := opens_of_bucketStart hcount hnanos hnext
  have hindex : i.index (i.boundary (j + 1)) = j + 1 :=
    (index_eq_iff hcount _ _).2 ⟨le_rfl, boundary_lt_succ hcount _⟩
  rw [hj]
  simp only [Int.sub_add_cancel, hindex]

end

end Interval

/-! ## Single units -/

namespace DateUnit

variable {u : DateUnit} {offset : Int} {t t' : Instant} {s s' stop : ZonedTime}

/-- One unit is a positive amount. -/
lemma count_one_pos : 0 < (Interval.mk 1 u).count.toInt := by
  show 0 < (1 : Int64).toInt
  decide

/-- A unit lasts a year at most. -/
lemma boundary_succ_le (u : DateUnit) (k : Int) :
    Interval.boundary ⟨1, u⟩ (k + 1) ≤ Interval.boundary ⟨1, u⟩ k + 31622400 := by
  cases hs : u.seconds? with
  | some length =>
    have hweek : length ≤ 604800 := by
      revert hs
      cases u <;> simp [DateUnit.seconds?] <;> omega
    have hsingle : (Interval.mk 1 u).count.toInt = 1 := rfl
    unfold Interval.boundary
    rw [hs]
    dsimp only
    rw [hsingle, Int.one_mul, Int.add_mul]
    omega
  | none =>
    have hmonths : (Interval.mk 1 u).months = 1 ∨ (Interval.mk 1 u).months = 12 := by
      revert hs
      cases u <;> decide
    have hnext := Date.firstDay_add_year_le (k * (Interval.mk 1 u).months)
    have hmono := Date.firstDay_le_firstDay
      (m := (k + 1) * (Interval.mk 1 u).months) (n := k * (Interval.mk 1 u).months + 12)
      (by rcases hmonths with h | h <;> rw [h] <;> omega)
    rw [Interval.boundary_of_months hs, Interval.boundary_of_months hs]
    unfold secondsPerDay
    omega

/-- Rounding down twice is rounding down once. -/
lemma floor_floor (h : u.floor ((Zone.fixed offset).localize t) (.fixed offset) = .ok s) :
    u.floor s (.fixed offset) = .ok s := by
  obtain ⟨-, hwall, hrange, rfl⟩ := floor_fixed_iff.1 h
  -- The start of a unit is the start of its own unit.
  have hself : (u.wallFloor (Instant.wallTime
      ⟨(u.wallFloor (t.wallTime offset)).seconds - offset, 0⟩ offset)).seconds =
      (u.wallFloor (t.wallTime offset)).seconds := by
    rw [Interval.wallFloor_seconds, Interval.wallFloor_seconds]
    apply congrArg
    apply (Interval.index_eq_iff count_one_pos _ _).2
    show _ ≤ _ - offset + offset ∧ _ - offset + offset < _
    rw [Int.sub_add_cancel]
    exact ⟨le_rfl, Interval.boundary_lt_succ count_one_pos _⟩
  apply floor_fixed_iff.2
  rw [hself]
  refine ⟨?_, hwall, hrange, rfl⟩
  dsimp only
  rwa [Int.sub_add_cancel]

/-- Rounding down keeps the order of times. -/
lemma floor_mono (h : u.floor ((Zone.fixed offset).localize t) (.fixed offset) = .ok s)
    (h' : u.floor ((Zone.fixed offset).localize t') (.fixed offset) = .ok s') (hle : t ≤ t') :
    s.instant ≤ s'.instant := by
  obtain ⟨-, -, -, rfl⟩ := floor_fixed_iff.1 h
  obtain ⟨-, -, -, rfl⟩ := floor_fixed_iff.1 h'
  have hseconds : (t.wallTime offset).seconds ≤ (t'.wallTime offset).seconds := by
    rw [Instant.le_iff] at hle
    show t.seconds + offset ≤ t'.seconds + offset
    omega
  have hstart : (u.wallFloor (t.wallTime offset)).seconds ≤
      (u.wallFloor (t'.wallTime offset)).seconds := by
    rw [Interval.wallFloor_seconds, Interval.wallFloor_seconds]
    exact Interval.boundary_mono count_one_pos (Interval.index_mono count_one_pos hseconds)
  apply Instant.le_iff.2
  dsimp only
  omega

/-- Rounding up gives the last millisecond of the unit. -/
lemma exists_ceil {z : Zone} {t : ZonedTime} (h : u.floor t z = .ok s)
    (hstop : u.add s 1 z = .ok stop) : ∃ last, u.ceil t z = .ok last ∧
      last.instant.totalNanos = stop.instant.totalNanos - 1000000 := by
  refine ⟨{ stop with instant := stop.instant.previousMilli }, ?_, ?_⟩
  · rw [ceil, h]
    dsimp only
    rw [hstop]
  · apply Instant.totalNanos_previousMilli

end DateUnit

/-- **Buckets tile time** in a zone that always keeps the same distance from UTC, of less than a
day. If the bucket of a time has a start and an end, it contains the time, every other time in it
has the same start, and its end is the start of the next one. For single units, rounding down is
idempotent and monotone, and rounding up gives the millisecond before the end.

**Proof sketch.** The buckets are numbered, and the start of each is the boundary with its number.
A bucket with an end is short enough for its length to be counted in 64 bits, so that rounding finds
the last boundary until the time and shifting finds the next one. -/
theorem Interval.buckets_tile_time {offset : Int} (hoffset : -86400 < offset ∧ offset < 86400) :
    (∀ (i : Interval) (t s : Instant) (stop : ZonedTime), 0 < i.count.toInt →
      t.nanos < nanosPerSecond → i.bucketStart t (.fixed offset) = .ok s →
      i.unit.add ((Zone.fixed offset).localize s) i.count.toInt (.fixed offset) = .ok stop →
      (s ≤ t ∧ t < stop.instant) ∧
      (∀ x : Instant, x.nanos < nanosPerSecond → s ≤ x → x < stop.instant →
        i.bucketStart x (.fixed offset) = .ok s) ∧
      ∀ next, i.bucketStart stop.instant (.fixed offset) = .ok next → next = stop.instant) ∧
    ∀ u : DateUnit,
      (∀ (t : Instant) (s : ZonedTime),
        u.floor ((Zone.fixed offset).localize t) (.fixed offset) = .ok s →
        u.floor s (.fixed offset) = .ok s) ∧
      (∀ (t t' : Instant) (s s' : ZonedTime), t ≤ t' →
        u.floor ((Zone.fixed offset).localize t) (.fixed offset) = .ok s →
        u.floor ((Zone.fixed offset).localize t') (.fixed offset) = .ok s' →
        s.instant ≤ s'.instant) ∧
      ∀ (t : Instant) (s stop : ZonedTime),
        u.floor ((Zone.fixed offset).localize t) (.fixed offset) = .ok s →
        u.add s 1 (.fixed offset) = .ok stop →
        ∃ last, u.ceil ((Zone.fixed offset).localize t) (.fixed offset) = .ok last ∧
          last.instant.totalNanos = stop.instant.totalNanos - 1000000 := by
  constructor
  · intro i t s stop hcount ht hs hstop
    refine ⟨between_of_bucketStart hcount ht hs hstop, ?_, ?_⟩
    · intro x hx hle hlt
      exact bucketStart_of_between hcount ht hs hstop hoffset hx hle hlt
    · intro next hnext
      exact eq_stop_of_bucketStart hcount ht hs hstop hnext
  · intro u
    refine ⟨?_, ?_, ?_⟩
    · intro t s h
      exact DateUnit.floor_floor h
    · intro t t' s s' hle h h'
      exact DateUnit.floor_mono h h' hle
    · intro t s stop h hstop
      exact DateUnit.exists_ceil h hstop

/-- The noon of a leap day, an hour ahead of UTC: it lies in the first quarter of 2024, whose last
millisecond has the same start and whose end starts the next quarter, and in February, which starts
at its own start, after January, and ends a millisecond before March. -/
theorem Interval.leap_day_tiled :
    ((⟨1704063600, 0⟩ : Instant) ≤ ⟨1709204400, 0⟩ ∧
      (⟨1709204400, 0⟩ : Instant) < ⟨1711926000, 0⟩) ∧
    Interval.bucketStart ⟨3, .month⟩ ⟨1711925999, 999000000⟩ (.fixed 3600) =
      .ok ⟨1704063600, 0⟩ ∧
    (∀ next, Interval.bucketStart ⟨3, .month⟩ ⟨1711926000, 0⟩ (.fixed 3600) = .ok next →
      next = ⟨1711926000, 0⟩) ∧
    DateUnit.month.floor ⟨⟨1706742000, 0⟩, 3600⟩ (.fixed 3600) = .ok ⟨⟨1706742000, 0⟩, 3600⟩ ∧
    (⟨1704063600, 0⟩ : Instant) ≤ ⟨1706742000, 0⟩ ∧
    ∃ last, DateUnit.month.ceil ((Zone.fixed 3600).localize ⟨1709204400, 0⟩) (.fixed 3600) =
        .ok last ∧
      last.instant.totalNanos = (Instant.mk 1709247600 0).totalNanos - 1000000 := by
  obtain ⟨hbuckets, hunits⟩ := @buckets_tile_time 3600 (by decide)
  obtain ⟨hlies, hsame, hnext⟩ := hbuckets ⟨3, .month⟩ ⟨1709204400, 0⟩ ⟨1704063600, 0⟩
    ⟨⟨1711926000, 0⟩, 3600⟩ (by decide) (by decide) (by decide) (by decide)
  obtain ⟨hidempotent, hmono, hceil⟩ := hunits .month
  refine ⟨hlies, ?_, hnext, ?_, ?_, ?_⟩
  · exact hsame ⟨1711925999, 999000000⟩ (by decide) (by decide) (by decide)
  · exact hidempotent ⟨1709204400, 0⟩ ⟨⟨1706742000, 0⟩, 3600⟩ (by decide)
  · exact hmono ⟨1704063600, 0⟩ ⟨1709204400, 0⟩ ⟨⟨1704063600, 0⟩, 3600⟩ ⟨⟨1706742000, 0⟩, 3600⟩
      (by decide) (by decide) (by decide)
  · exact hceil ⟨1709204400, 0⟩ ⟨⟨1706742000, 0⟩, 3600⟩ ⟨⟨1709247600, 0⟩, 3600⟩ (by decide)
      (by decide)

end Sift
