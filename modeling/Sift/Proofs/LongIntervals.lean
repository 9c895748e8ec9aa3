import Sift.Proofs.CheckedStarts
import Sift.Proofs.DateExpressions

/-!
# Intervals that are too long

The amount of an interval may be any positive number of 64 bits, but its start is computed in 64
bits too. An interval that is too long has no start and is not refused either: the computation
breaks off, at the length of the interval or, for a time before 1970, at a start that is almost as
early as 64 bits can tell. It also breaks off where it goes by clocks that cannot show the time. In
all other cases it finds what would be found without bounds on numbers.

## Main definitions

* `Sift.Interval.exactStart`: the start of the interval of an instant, without bounds on numbers.

## Main results

* `Sift.Interval.bucketStart_eq_crash_iff`: which intervals break the computation off, and what is
  found in all others.
-/

set_option autoImplicit false

namespace Sift

/-- Clocks that cannot show a time skip it. This breaks no computation off. -/
lemma Zone.ofWall_ne_crash (z : Zone) (w : WallTime) : z.ofWall w ≠ .error .crash := by
  intro h
  cases ofWall_error h

/-- **Rounding to a unit** breaks off exactly if clocks cannot show the time. -/
theorem DateUnit.floor_eq_crash_iff {u : DateUnit} {t : ZonedTime} {z : Zone} :
    u.floor t z = .error .crash ↔ (z.localize t.instant).wall.isValid = false := by
  unfold floor
  dsimp only
  cases hvalid : (z.localize t.instant).wall.isValid with
  | false => simp
  | true =>
    simp only [Bool.not_true, Bool.false_eq_true, if_false, Bool.true_eq_false, iff_false]
    split_ifs
    · nofun
    · exact Zone.ofWall_ne_crash _ _
    · exact z.ofWall_ne_crash _

namespace Interval

variable {i : Interval} {t : Instant} {z : Zone} {seconds offset millis : Int}

/-- The start of the interval of an instant, without bounds on numbers. -/
def exactStart (i : Interval) (t : Instant) (z : Zone) : Except DateError Instant :=
  if i.count = 1 then (i.unit.floor (z.localize t) z).map ZonedTime.instant
  else
    match i.unit.seconds? with
    | some seconds =>
      match Instant.ofMillis? (fixedStart (i.exactMillis seconds) (alignment i.unit)
          (z.offsetAt t * 1000) t.millis) with
      | some s => .ok s
      | none => .error (.bucketOutOfRange t)
    | none =>
      match DateUnit.month.floor (z.localize t) z with
      | .error e => .error e
      | .ok f =>
        (ofMonthIndex (f.wall.date.monthIndex - f.wall.date.monthIndex % i.months) z).map
          ZonedTime.instant

/-- Clocks have to show the time of a single unit, and of months and years, but cannot. -/
def Unshown (i : Interval) (offset seconds : Int) : Prop :=
  (i.count = 1 ∨ i.unit.seconds? = none) ∧ inRange (seconds + offset) = false

/-- Taking the instant of a time breaks nothing off. -/
lemma map_instant_eq_crash_iff {x : Except DateError ZonedTime} :
    x.map ZonedTime.instant = .error .crash ↔ x = .error .crash := by
  cases x <;> simp [Except.map]

/-- The start of the month with an index may be out of range, but breaks nothing off. -/
lemma ofMonthIndex_ne_crash (index : Int) (z : Zone) : ofMonthIndex index z ≠ .error .crash := by
  unfold ofMonthIndex
  dsimp only
  split_ifs
  · nofun
  · exact z.ofWall_ne_crash _
  · nofun

/-- The computation without bounds on numbers breaks off only at what clocks show. -/
lemma exactStart_eq_crash_iff :
    i.exactStart t z = .error .crash ↔ i.Unshown (z.offsetAt t) t.seconds := by
  have hshown : ∀ u : DateUnit, u.floor (z.localize t) z = .error .crash ↔
      inRange (t.seconds + z.offsetAt t) = false := fun u => DateUnit.floor_eq_crash_iff
  unfold exactStart Unshown
  by_cases hone : i.count = 1
  · rw [if_pos hone, map_instant_eq_crash_iff, hshown, and_iff_right (.inl hone)]
  · rw [if_neg hone]
    cases hs : i.unit.seconds? with
    | some seconds =>
      refine iff_of_false ?_ fun h => h.1.elim hone (Option.some_ne_none seconds)
      dsimp only
      split <;> nofun
    | none =>
      rw [and_iff_right (.inr rfl), ← hshown .month]
      dsimp only
      cases DateUnit.month.floor (z.localize t) z with
      | error e => simp
      | ok f =>
        refine iff_of_false (fun h => ?_) nofun
        exact ofMonthIndex_ne_crash _ _ (map_instant_eq_crash_iff.1 h)

/-- Where the length is in range, it is so in milliseconds. -/
lemma exactMillis_lt (hlong : ¬ i.LengthOverflows) (hone : i.count ≠ 1)
    (hs : i.unit.seconds? = some seconds) : i.exactMillis seconds < 2 ^ 63 := by
  by_contra hge
  refine hlong ⟨hone, ?_⟩
  rw [hs]
  exact Int.not_lt.1 hge

/-- Where the length is in range, it is so in months. -/
lemma months_lt (hlong : ¬ i.LengthOverflows) (hone : i.count ≠ 1)
    (hs : i.unit.seconds? = none) : i.months < 2 ^ 63 := by
  by_contra hge
  refine hlong ⟨hone, ?_⟩
  rw [hs]
  exact Int.not_lt.1 hge

/-- A length that is in range leaves the start, which is found exactly or breaks the computation
off. -/
lemma bucketStart_of_not_lengthOverflows (hcount : 0 < i.count.toInt) (ht : t.Valid)
    (hz : -86400 < z.offsetAt t ∧ z.offsetAt t < 86400) (hlong : ¬ i.LengthOverflows) :
    (i.StartOverflows (z.offsetAt t) t.millis ∧ i.bucketStart t z = .error .crash) ∨
      (¬ i.StartOverflows (z.offsetAt t) t.millis ∧ i.bucketStart t z = i.exactStart t z) := by
  by_cases hone : i.count = 1
  · refine .inr ⟨fun h => h.1 hone, ?_⟩
    rw [bucketStart, exactStart, if_pos hone, if_pos hone]
  cases hs : i.unit.seconds? with
  | some seconds =>
    have hexact : i.exactStart t z =
        match Instant.ofMillis? (fixedStart (i.exactMillis seconds) (alignment i.unit)
            (z.offsetAt t * 1000) t.millis) with
        | some s => .ok s
        | none => .error (.bucketOutOfRange t) := by
      rw [exactStart, if_neg hone, hs]
    rw [hexact]
    exact bucketStart_of_seconds hcount hone hs (exactMillis_lt hlong hone hs)
      (millis_bounds ht.range ht.fraction) hz
  | none =>
    refine .inr ⟨?_, ?_⟩
    · rintro ⟨-, seconds, hs', -⟩
      exact Option.some_ne_none seconds (hs'.symm.trans hs)
    · rw [bucketStart_of_months hone hs, monthStart_eq hcount (months_lt hlong hone hs),
        exactStart, if_neg hone, hs]
      dsimp only
      cases DateUnit.month.floor (z.localize t) z <;> rfl

/-- **Intervals that are too long.** For the interval of a text, every zone and every instant of the
calendar, the computation of the start breaks off exactly if the length of the interval does not fit
in 64 bits, or for a time before 1970 its start does not, or clocks that have to show the time
cannot. Where neither the length nor the start is out of range, the start is the one without bounds
on numbers, or the computation fails for the same reason.

**Proof sketch.** The length is what the amount can make out of range. All other operations have
small numbers and the length as their operands, and the only result that can be out of range is the
start of the interval that ends with 1970. -/
theorem bucketStart_eq_crash_iff {text : String} (hparse : parse text = .ok i) (ht : t.Valid)
    (hz : -86400 < z.offsetAt t ∧ z.offsetAt t < 86400) :
    (i.bucketStart t z = .error .crash ↔
        i.LengthOverflows ∨ i.StartOverflows (z.offsetAt t) t.millis ∨
          i.Unshown (z.offsetAt t) t.seconds) ∧
      (¬ i.LengthOverflows → ¬ i.StartOverflows (z.offsetAt t) t.millis →
        i.bucketStart t z = i.exactStart t z) := by
  have hcount := count_pos_of_parse hparse
  by_cases hlong : i.LengthOverflows
  · exact ⟨iff_of_true (bucketStart_of_lengthOverflows hcount hlong) (.inl hlong),
      fun h => absurd hlong h⟩
  rcases bucketStart_of_not_lengthOverflows hcount ht hz hlong with
    ⟨hstart, hcrash⟩ | ⟨hstart, hexact⟩
  · exact ⟨iff_of_true hcrash (.inr (.inl hstart)), fun _ h => absurd hstart h⟩
  · refine ⟨?_, fun _ _ => hexact⟩
    rw [hexact, exactStart_eq_crash_iff, or_iff_right hlong, or_iff_right hstart]

/-- Nine million billion seconds fit in 64 bits, but a second before 1970 on clocks ahead of UTC
lies in an interval that starts too early. -/
theorem bucketStart_of_many_seconds :
    bucketStart ⟨9223372036854775, .second⟩ ⟨-3601, 0⟩ (.fixed 3600) = .error .crash := by
  have hparse : parse "9223372036854775s" = .ok ⟨9223372036854775, .second⟩ := rfl
  have hvalid : Instant.Valid ⟨-3601, 0⟩ := ⟨by decide, by decide⟩
  have hzone : -86400 < (Zone.fixed 3600).offsetAt ⟨-3601, 0⟩ ∧
      (Zone.fixed 3600).offsetAt ⟨-3601, 0⟩ < 86400 := by decide
  have hstart : StartOverflows ⟨9223372036854775, .second⟩ 3600 (Instant.millis ⟨-3601, 0⟩) :=
    ⟨by decide, 1, rfl, by decide, by decide, by decide⟩
  exact (bucketStart_eq_crash_iff hparse hvalid hzone).1.2 (.inr (.inl hstart))

/-- The length of so many days is out of range, and a time in 2024 breaks the computation off. -/
theorem bucketStart_of_many_days :
    parse "9223372036854775807d" = .ok ⟨9223372036854775807, .day⟩ ∧
      Instant.Valid ⟨1715769045, 0⟩ ∧
      bucketStart ⟨9223372036854775807, .day⟩ ⟨1715769045, 0⟩ .utc = .error .crash :=
  ⟨rfl, ⟨by decide, by decide⟩, rfl⟩

end Interval

end Sift
