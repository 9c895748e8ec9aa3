import Mathlib.Tactic.Lemma
import Mathlib.Tactic.SplitIfs
import Sift.Time.Interval

/-!
# Where intervals of time start and end

A date lies in an interval of time, whose start is found by rounding and whose end by shifting the
start. The start of an interval, where there is one, is again a date that can be written in
milliseconds. Its end need not exist: clocks may skip it, with the hour after it, and it may lie
beyond the calendar's range.

## Main definitions

* The order of instants, as `≤` and `<`.
* `Sift.Instant.InMillis`: instants that are a whole number of milliseconds.
* `Sift.Interval.Closes`: the interval that starts at some milliseconds has an end.

## Main results

* `Sift.Interval.inMillis_of_bucketStart`: intervals start at a whole number of milliseconds.
* `Sift.DateUnit.add_error`: why a date cannot be shifted.
* `Sift.Interval.closes_iff_of_isExact`: hours and what is shorter end within the calendar's range.
-/

set_option autoImplicit false

namespace Sift

/-! ## Instants in order -/

namespace Instant

instance : LE Instant := ⟨fun t u => t.order u ≠ .gt⟩

instance : LT Instant := ⟨fun t u => t.order u = .lt⟩

instance (t u : Instant) : Decidable (t ≤ u) := inferInstanceAs (Decidable (t.order u ≠ .gt))

instance (t u : Instant) : Decidable (t < u) := inferInstanceAs (Decidable (t.order u = .lt))

/-- Instants are ordered by their seconds, and then by their nanoseconds. -/
lemma le_iff {t u : Instant} :
    t ≤ u ↔ t.seconds < u.seconds ∨ t.seconds = u.seconds ∧ t.nanos ≤ u.nanos := by
  show (compare t.seconds u.seconds).then (compare t.nanos u.nanos) ≠ .gt ↔ _
  simp only [ne_eq, Ordering.then_eq_gt, Int.compare_eq_gt, Nat.compare_eq_gt, Int.compare_eq_eq]
  omega

/-- Instants are strictly ordered by their seconds, and then by their nanoseconds. -/
lemma lt_iff {t u : Instant} :
    t < u ↔ t.seconds < u.seconds ∨ t.seconds = u.seconds ∧ t.nanos < u.nanos := by
  show (compare t.seconds u.seconds).then (compare t.nanos u.nanos) = .lt ↔ _
  simp only [Ordering.then_eq_lt, Int.compare_eq_lt, Nat.compare_eq_lt, Int.compare_eq_eq]

end Instant

/-! ## Instants in milliseconds -/

/-- The range of the calendar, in seconds. -/
lemma inRange_iff {n : Int} : inRange n = true ↔ minSeconds ≤ n ∧ n ≤ maxSeconds := by
  rw [inRange, Bool.and_eq_true, decide_eq_true_eq, decide_eq_true_eq]

/-- Without a leap second, shifting changes the seconds alone. -/
lemma shiftSeconds_of_lt {nanos : Nat} (h : nanos < nanosPerSecond) (seconds n : Int) :
    shiftSeconds seconds nanos n = (seconds + n, nanos) := if_neg (Nat.not_le_of_lt h)

namespace Instant

/-- The instant is in range and a whole number of milliseconds. -/
structure InMillis (t : Instant) : Prop where
  range : inRange t.seconds = true
  fraction : ∃ m < 1000, t.nanos = m * 1000000

/-- An instant that is made from milliseconds has whole milliseconds. -/
lemma inMillis_of_ofMillis? {n : Int} {t : Instant} (h : ofMillis? n = some t) : t.InMillis := by
  unfold ofMillis? at h
  split at h
  · rename_i hrange
    obtain rfl := Option.some.inj h
    refine ⟨hrange, (n % 1000).toNat, ?_, rfl⟩
    omega
  · cases h

/-- An instant that is made from milliseconds has these milliseconds. -/
lemma millis_of_ofMillis? {n : Int} {t : Instant} (h : ofMillis? n = some t) : t.millis = n := by
  unfold ofMillis? at h
  split at h
  · obtain rfl := Option.some.inj h
    unfold millis
    dsimp only
    omega
  · cases h

/-- No such instant is in a leap second. -/
lemma InMillis.nanos_lt {t : Instant} (h : t.InMillis) : t.nanos < nanosPerSecond := by
  obtain ⟨m, hm, hnanos⟩ := h.fraction
  unfold nanosPerSecond
  omega

/-- Milliseconds lose nothing of such an instant. -/
lemma InMillis.ofMillis?_millis {t : Instant} (h : t.InMillis) : ofMillis? t.millis = some t := by
  obtain ⟨seconds, nanos⟩ := t
  obtain ⟨hrange, m, hm, rfl⟩ := h
  have hseconds : (seconds * 1000 + ((m * 1000000 : Nat) : Int) / 1000000) / 1000 = seconds := by
    omega
  have hmillis : (seconds * 1000 + ((m * 1000000 : Nat) : Int) / 1000000) % 1000 = m := by
    omega
  rw [ofMillis?, millis]
  dsimp only
  rw [hseconds, hmillis, if_pos hrange, Int.toNat_natCast]

end Instant

/-- Shifting adds nothing to a fraction. -/
lemma shiftSeconds_snd_le (seconds : Int) (nanos : Nat) (n : Int) :
    (shiftSeconds seconds nanos n).2 ≤ nanos := by
  unfold shiftSeconds
  split_ifs <;> dsimp only <;> omega

/-- A shift on clocks adds no fraction of a second. -/
lemma WallTime.nanos_of_shift? {w w' : WallTime} {n : Int} (h : w.shift? n = some w') :
    w'.nanos ≤ w.nanos := by
  unfold shift? at h
  dsimp only at h
  split at h
  · obtain rfl := Option.some.inj h
    exact shiftSeconds_snd_le _ _ _
  · cases h

namespace Zone

variable {z : Zone} {w : WallTime} {t : ZonedTime}

/-- Clocks show a time at an instant in range with the same fraction. -/
lemma range_of_ofWall? (h : z.ofWall? w = some t) :
    inRange t.instant.seconds = true ∧ t.instant.nanos = w.nanos := by
  have hinstant : ∀ offset, (w.instant? offset).map (fun i => ZonedTime.mk i offset) = some t →
      inRange t.instant.seconds = true ∧ t.instant.nanos = w.nanos := by
    intro offset h
    obtain ⟨i, hi, rfl⟩ := Option.map_eq_some_iff.1 h
    unfold WallTime.instant? at hi
    split at hi
    · rename_i hrange
      obtain rfl := Option.some.inj hi
      exact ⟨hrange, rfl⟩
    · cases hi
  cases z with
  | fixed offset => exact hinstant offset h
  | region r =>
    rw [ofWall?] at h
    cases hoffset : r.offsetOfWall? w with
    | none =>
      rw [hoffset] at h
      cases h
    | some offset =>
      rw [hoffset] at h
      exact hinstant offset h

/-- A time on the wall stands for an instant in range with no more than its fraction, even if clocks
skip it. -/
lemma range_of_ofWall (h : z.ofWall w = .ok t) :
    inRange t.instant.seconds = true ∧ t.instant.nanos ≤ w.nanos := by
  unfold ofWall at h
  split at h
  · rename_i hfound
    obtain rfl := Except.ok.inj h
    exact (range_of_ofWall? hfound).imp_right Nat.le_of_eq
  · cases z with
    | fixed _ => cases h
    | region r =>
      dsimp only at h
      split at h
      · rename_i hfound
        obtain rfl := Except.ok.inj h
        obtain ⟨later, hlater, hfound⟩ := Option.bind_eq_some_iff.1 hfound
        obtain ⟨hrange, hnanos⟩ := range_of_ofWall? hfound
        exact ⟨hrange, Nat.le_trans (Nat.le_of_eq hnanos) (WallTime.nanos_of_shift? hlater)⟩
      · cases h

/-- A whole second on the wall stands for a whole second. -/
lemma inMillis_of_ofWall (hw : w.nanos = 0) (h : z.ofWall w = .ok t) : t.instant.InMillis := by
  obtain ⟨hrange, hnanos⟩ := range_of_ofWall h
  exact ⟨hrange, 0, by omega, by omega⟩

/-- The only failure is that clocks skip the time. -/
lemma ofWall_error {e : DateError} (h : z.ofWall w = .error e) : e = .skipped w := by
  unfold ofWall at h
  split at h
  · cases h
  · cases z with
    | fixed _ => exact (Except.error.inj h).symm
    | region r =>
      dsimp only at h
      split at h
      · cases h
      · exact (Except.error.inj h).symm

end Zone

/-! ## Starts -/

/-- Units start at whole seconds. -/
lemma DateUnit.wallFloor_nanos (u : DateUnit) (w : WallTime) : (u.wallFloor w).nanos = 0 := by
  cases u <;> rfl

/-- The start of a unit has whole milliseconds. -/
lemma DateUnit.inMillis_of_floor {u : DateUnit} {t s : ZonedTime} {z : Zone}
    (h : u.floor t z = .ok s) : s.instant.InMillis := by
  unfold floor at h
  dsimp only at h
  split at h
  · cases h
  · split at h
    · cases h
    · split at h
      · exact Zone.inMillis_of_ofWall (wallFloor_nanos _ _) h
      · exact Zone.inMillis_of_ofWall (wallFloor_nanos _ _) h

namespace Interval

variable {i : Interval} {z : Zone}

/-- A month starts at a whole second. -/
lemma inMillis_of_ofMonthIndex {index : Int} {s : ZonedTime} (h : ofMonthIndex index z = .ok s) :
    s.instant.InMillis := by
  unfold ofMonthIndex at h
  dsimp only at h
  split at h
  · cases h
  · split at h
    · exact Zone.inMillis_of_ofWall rfl h
    · cases h

/-- **What the start of an interval of months is found from**: the length in months, the month of
the time and the first month of the interval. -/
theorem monthStart_eq_ok_iff {t s : ZonedTime} :
    i.monthStart t z = .ok s ↔ ∃ months floored first, i.lengthMonths? = some months ∧
      DateUnit.month.floor t z = .ok floored ∧
      firstMonth? months floored.wall.date = some first ∧ ofMonthIndex first z = .ok s := by
  unfold monthStart
  constructor
  · intro h
    split at h
    · cases h
    · rename_i months hmonths
      split at h
      · cases h
      · rename_i floored hfloored
        split at h
        · cases h
        · rename_i first hfirst
          exact ⟨months, floored, first, hmonths, hfloored, hfirst, h⟩
  · rintro ⟨months, floored, first, hmonths, hfloored, hfirst, h⟩
    simp only [hmonths, hfloored, hfirst, h]

/-- The start of an interval of months has whole milliseconds. -/
lemma inMillis_of_monthStart {t s : ZonedTime} (h : i.monthStart t z = .ok s) :
    s.instant.InMillis := by
  obtain ⟨_, _, _, -, -, -, hs⟩ := monthStart_eq_ok_iff.1 h
  exact inMillis_of_ofMonthIndex hs

/-- **Intervals start at a whole number of milliseconds.** -/
theorem inMillis_of_bucketStart {t s : Instant} (h : i.bucketStart t z = .ok s) : s.InMillis := by
  have hzoned : ∀ {x : Except DateError ZonedTime}, (∀ s, x = .ok s → s.instant.InMillis) →
      x.map ZonedTime.instant = .ok s → s.InMillis := by
    intro x hx hs
    cases x with
    | error e => cases hs
    | ok s' => exact Except.ok.inj hs ▸ hx s' rfl
  unfold bucketStart at h
  split at h
  · exact hzoned (fun s hs => DateUnit.inMillis_of_floor hs) h
  · split at h
    · split at h
      · cases h
      · split at h
        · rename_i hstart
          obtain rfl := Except.ok.inj h
          exact Instant.inMillis_of_ofMillis? hstart
        · cases h
    · exact hzoned (fun s hs => inMillis_of_monthStart hs) h

end Interval

/-! ## Ends -/

/-- **Why a date cannot be shifted**: what results is out of range, or clocks skip it, or clocks
cannot show the date that a unit of the calendar is added to. -/
theorem DateUnit.add_error {u : DateUnit} {t : ZonedTime} {n : Int} {z : Zone} {e : DateError}
    (h : u.add t n z = .error e) :
    e = .overflow n u ∨ (∃ w, e = .skipped w) ∨
      e = .crash ∧ u.isExact = false ∧ (z.localize t.instant).wall.isValid = false := by
  unfold add at h
  split at h
  · split at h
    · cases h
    · exact .inl (Except.error.inj h).symm
  · rename_i hcalendar
    dsimp only at h
    split at h
    · rename_i hrange
      refine .inr (.inr ⟨(Except.error.inj h).symm, ?_, by simpa using hrange⟩)
      cases u <;> first | rfl | cases hcalendar
    · split at h
      · exact .inr (.inl ⟨_, Zone.ofWall_error h⟩)
      · exact .inl (Except.error.inj h).symm

/-- Shifting by hours and what is shorter, whatever clocks do. -/
lemma DateUnit.add_of_isExact {u : DateUnit} {length n : Int} (hexact : u.isExact = true)
    (hlength : u.seconds? = some length) {z : Zone} {t : Instant}
    (ht : t.nanos < nanosPerSecond) :
    u.add (z.localize t) n z = if inRange (t.seconds + n * length) = true then
        .ok (z.localize ⟨t.seconds + n * length, t.nanos⟩)
      else .error (.overflow n u) := by
  rw [add, if_pos hexact, hlength]
  dsimp only [Zone.localize, Instant.shift?]
  rw [shiftSeconds_of_lt ht]
  by_cases hrange : inRange (t.seconds + n * length) = true
  · simp only [hrange, if_true]
  · simp only [hrange, if_false, Bool.false_eq_true]

namespace Interval

/-- The interval that starts at some milliseconds has an end. -/
def Closes (i : Interval) (z : Zone) (start : Int) : Prop :=
  ∀ t, Instant.ofMillis? start = some t →
    ∃ u, i.unit.add (z.localize t) i.count.toInt z = .ok u

/-- **Hours and what is shorter** end within the calendar's range, whatever clocks do. -/
theorem closes_iff_of_isExact {i : Interval} {length : Int} (hexact : i.unit.isExact = true)
    (hlength : i.unit.seconds? = some length) {z : Zone} {t : Instant} (ht : t.InMillis) :
    i.Closes z t.millis ↔ inRange (t.seconds + i.count.toInt * length) = true := by
  have hadd := DateUnit.add_of_isExact (n := i.count.toInt) (z := z) hexact hlength ht.nanos_lt
  rw [Closes, ht.ofMillis?_millis]
  constructor
  · intro h
    obtain ⟨u, hu⟩ := h t rfl
    rw [hadd] at hu
    split at hu
    · assumption
    · cases hu
  · intro hrange s hs
    obtain rfl := Option.some.inj hs
    exact ⟨_, hadd.trans (if_pos hrange)⟩

end Interval

end Sift
