import Sift.Proofs.RegionalClocks
import Sift.Time.Regions

/-!
# Buckets of time on clocks that are changed

A bucket of time is whole if it has a start and an end, contains the time, and is the bucket of
every time between them. Where clocks are changed this can fail in several ways: a span of several
days is aligned to the distance from UTC at the time, but ends where the wall says, so that it can
end too early; a change by less than the length of a span splits it; the start of a day that clocks
skip moves by an hour, and the end moves with it. What has to hold on the clocks for a bucket to be
whole is told here without rounding and shifting, for spans of time and for units of the calendar.
Away from changes of clocks all buckets are whole.

## Main definitions

* `Sift.Interval.Whole`: the bucket of a time is whole.
* `Sift.Region.Starts`, `Sift.Region.EndsAt`: where buckets start and end, on the clocks.

## Main results

* `Sift.Region.whole_iff_of_isSpan`: spans are whole if clocks are changed by multiples of them.
* `Sift.Region.whole_iff_of_calendar`: units of the calendar are whole if clocks show no times of
  another one in between.
* `Sift.Region.whole_of_unchanged`: buckets are whole where no clocks are changed.
-/

set_option autoImplicit false

namespace Sift

/-- The bucket of a time has a start and an end, contains the time, and is the bucket of every time
between them. -/
def Interval.Whole (i : Interval) (z : Zone) (t : Instant) : Prop :=
  ∃ s stop, i.bucketStart t z = .ok s ∧
    i.unit.add (z.localize s) i.count.toInt z = .ok stop ∧ s ≤ t ∧ t < stop.instant ∧
    ∀ x : Instant, x.nanos < nanosPerSecond → s ≤ x → x < stop.instant →
      i.bucketStart x z = .ok s

namespace Instant

/-- A full second is not after an instant if it is not after the second of it. -/
lemma ofSeconds_le_iff {n : Int} {t : Instant} : (⟨n, 0⟩ : Instant) ≤ t ↔ n ≤ t.seconds := by
  rw [le_iff]
  dsimp only
  omega

/-- A full second is after an instant if it is after the second of it. -/
lemma lt_ofSeconds_iff {n : Int} {t : Instant} : t < (⟨n, 0⟩ : Instant) ↔ t.seconds < n := by
  rw [lt_iff]
  dsimp only
  omega

end Instant

namespace Region

variable {r : Region} {i : Interval} {t : Instant} {n m j s e : Int}

/-! ## Starts and ends -/

/-- The bucket of a second starts at a second. -/
inductive Starts (r : Region) (i : Interval) (n : Int) : Int → Prop
  /-- Spans of time start as if clocks always had the distance from UTC that they have now. -/
  | span (hi : i.IsSpan)
      (hrange : inRange (i.boundary (i.index (r.shown n)) - r.offset n) = true)
      (hsingle : i.count = 1 →
        inRange (r.shown n) = true ∧ inRange (i.boundary (i.index (r.shown n))) = true) :
      Starts r i n (i.boundary (i.index (r.shown n)) - r.offset n)
  /-- Units of the calendar start where clocks show their start. -/
  | calendar {s : Int} (hi : ¬ i.IsSpan) (hopens : r.Opens i n)
      (hs : r.StandsFor (i.boundary (i.index (r.shown n))) s) : Starts r i n s

/-- The bucket with a number that starts at a second ends at a second. -/
inductive EndsAt (r : Region) (i : Interval) (j s : Int) : Int → Prop
  /-- Hours and what is shorter have a length. -/
  | exact (hu : i.unit.isExact = true)
      (hrange : inRange (s + (i.boundary (j + 1) - i.boundary j)) = true) :
      EndsAt r i j s (s + (i.boundary (j + 1) - i.boundary j))
  /-- Days and what is longer end as far after the next boundary on the wall as they start after
  their own. -/
  | calendar {e : Int} (hu : i.unit.isExact = false) (hshown : inRange (r.shown s) = true)
      (hrange : inRange (i.boundary (j + 1) + (r.shown s - i.boundary j)) = true)
      (he : r.StandsFor (i.boundary (j + 1) + (r.shown s - i.boundary j)) e) : EndsAt r i j s e

/-- A bucket has one start. -/
lemma Starts.unique (h : r.Starts i n s) (h' : r.Starts i n m) : s = m := by
  cases h with
  | span hi hrange hsingle =>
    cases h' with
    | span => rfl
    | calendar hi' => exact absurd hi hi'
  | calendar hi hopens hs =>
    cases h' with
    | span hi' => exact absurd hi' hi
    | calendar hi' hopens' hs' => exact hs.unique hs'

/-- **Rounding finds where the bucket starts**, on the clocks of a region. -/
theorem bucketStart_iff_starts (hcount : 0 < i.count.toInt) (hfits : i.Fits)
    (hrange : inRange t.seconds = true) (ht : t.nanos < nanosPerSecond) {x : Instant} :
    i.bucketStart t (.region r) = .ok x ↔ ∃ s, r.Starts i t.seconds s ∧ x = ⟨s, 0⟩ := by
  by_cases hi : i.IsSpan
  · have hsome : i.unit.seconds? ≠ none :=
      hi.elim (fun hexact => seconds?_ne_none hexact) fun h => h.2
    rw [bucketStart_of_isSpan hi, Interval.bucketStart_fixed_iff hcount hfits
      (r.offset_bounds t.seconds) hrange ht]
    constructor
    · rintro ⟨hopens, rfl⟩
      exact ⟨_, .span hi hopens.start fun hone => ⟨hopens.shown (.inl hone), hopens.single hone⟩,
        rfl⟩
    · rintro ⟨s, hs, rfl⟩
      cases hs with
      | span _ hstart hsingle =>
        exact ⟨⟨fun h => (hsingle (h.resolve_right hsome)).1, hstart, fun h => (hsingle h).2,
          fun _ hs => absurd hs hsome, fun _ hs => absurd hs hsome⟩, rfl⟩
      | calendar hi' => exact absurd hi hi'
  · rw [bucketStart_iff hcount hfits hi]
    constructor
    · rintro ⟨hopens, s, hs, rfl⟩
      exact ⟨s, .calendar hi hopens hs, rfl⟩
    · rintro ⟨s, hs, rfl⟩
      cases hs with
      | span hi' => exact absurd hi' hi
      | calendar _ hopens hs => exact ⟨hopens, s, hs, rfl⟩

/-- Buckets start in range. -/
lemma Starts.range (h : r.Starts i n s) : inRange s = true := by
  cases h with
  | span _ hrange => exact hrange
  | calendar _ _ hs => exact hs.range

/-- Buckets end in range. -/
lemma EndsAt.range (h : r.EndsAt i j s e) : inRange e = true := by
  cases h with
  | exact _ hrange => exact hrange
  | calendar _ _ _ he => exact he.range

/-- The start of a bucket of months is shown at the start of its first day, or an hour later. -/
lemma Starts.shown_first (h : r.Starts i n s) (hs : i.unit.seconds? = none) :
    i.boundary (i.index (r.shown n)) ≤ r.shown s ∧
      r.shown s < i.boundary (i.index (r.shown n)) + 86400 := by
  cases h with
  | span hi =>
    rcases hi with hexact | ⟨-, hsome⟩
    · exact absurd hs (seconds?_ne_none hexact)
    · exact absurd hs hsome
  | calendar hi hopens hstart =>
    have := hstart.shown_eq
    omega

/-- For units of fixed length, boundaries are as far from each other as their numbers tell. -/
lemma boundary_add {length : Int} (hs : i.unit.seconds? = some length) (j k : Int) :
    i.boundary (j + k) = i.boundary j + k * (i.count.toInt * length) := by
  rw [Interval.boundary, Interval.boundary, hs]
  dsimp only
  rw [Int.add_mul]
  omega

/-- **Shifting finds where the bucket ends**, on the clocks of a region. -/
theorem add_iff_endsAt
    (hs : i.unit.seconds? = none → i.boundary j ≤ r.shown s ∧ r.shown s < i.boundary j + 86400)
    {stop : ZonedTime} :
    i.unit.add ((Zone.region r).localize ⟨s, 0⟩) i.count.toInt (.region r) = .ok stop ↔
      ∃ e, r.EndsAt i j s e ∧ stop = (Zone.region r).localize ⟨e, 0⟩ := by
  have hnanos : 0 < nanosPerSecond := by decide
  cases hu : i.unit.isExact with
  | true =>
    obtain ⟨length, hlength⟩ := Option.ne_none_iff_exists'.1 (seconds?_ne_none hu)
    have hnext : s + (i.boundary (j + 1) - i.boundary j) = s + i.count.toInt * length := by
      rw [boundary_add hlength]
      omega
    rw [DateUnit.add_of_isExact hu hlength hnanos]
    dsimp only
    constructor
    · intro h
      split at h
      · rename_i hrange
        obtain rfl := Except.ok.inj h
        rw [← hnext] at hrange ⊢
        exact ⟨_, .exact hu hrange, rfl⟩
      · cases h
    · rintro ⟨e, he, rfl⟩
      cases he with
      | exact _ hrange =>
        rw [hnext] at hrange ⊢
        rw [if_pos hrange]
      | calendar hu' => cases hu.symm.trans hu'
  | false =>
    rw [add_iff hu hs]
    constructor
    · rintro ⟨hshown, hrange, e, he, rfl⟩
      exact ⟨e, .calendar hu hshown hrange he, rfl⟩
    · rintro ⟨e, he, rfl⟩
      cases he with
      | exact hu' => cases hu'.symm.trans hu
      | calendar _ hshown hrange he => exact ⟨hshown, hrange, e, he, rfl⟩

/-- A bucket is whole exactly if it is so by the second. -/
lemma whole_iff_seconds (hcount : 0 < i.count.toInt) (hfits : i.Fits)
    (hrange : inRange t.seconds = true) (ht : t.nanos < nanosPerSecond) :
    i.Whole (.region r) t ↔
      ∃ s e, r.Starts i t.seconds s ∧ r.EndsAt i (i.index (r.shown t.seconds)) s e ∧
        s ≤ t.seconds ∧ t.seconds < e ∧ ∀ x, s ≤ x → x < e → r.Starts i x s := by
  have hnanos : 0 < nanosPerSecond := by decide
  -- What lies between a start and an end is in range.
  have hbetween {s e x : Int} (hs : r.Starts i t.seconds s)
      (he : r.EndsAt i (i.index (r.shown t.seconds)) s e) (hx : s ≤ x) (hxe : x < e) :
      inRange x = true := by
    have hlower := inRange_iff.1 hs.range
    have hupper := inRange_iff.1 he.range
    exact inRange_iff.2 (by omega)
  constructor
  · rintro ⟨_, stop, hstart, hstop, hle, hlt, hsame⟩
    obtain ⟨s, hs, rfl⟩ := (bucketStart_iff_starts hcount hfits hrange ht).1 hstart
    obtain ⟨e, he, rfl⟩ := (add_iff_endsAt hs.shown_first).1 hstop
    refine ⟨s, e, hs, he, Instant.ofSeconds_le_iff.1 hle, Instant.lt_ofSeconds_iff.1 hlt, ?_⟩
    intro x hx hxe
    have hbucket := hsame ⟨x, 0⟩ hnanos (Instant.ofSeconds_le_iff.2 hx)
      (Instant.lt_ofSeconds_iff.2 hxe)
    obtain ⟨s', hs', heq⟩ :=
      (bucketStart_iff_starts hcount hfits (hbetween hs he hx hxe) hnanos).1 hbucket
    obtain rfl : s = s' := congrArg Instant.seconds heq
    exact hs'
  · rintro ⟨s, e, hs, he, hle, hlt, hsame⟩
    refine ⟨⟨s, 0⟩, _, (bucketStart_iff_starts hcount hfits hrange ht).2 ⟨s, hs, rfl⟩,
      (add_iff_endsAt hs.shown_first).2 ⟨e, he, rfl⟩, Instant.ofSeconds_le_iff.2 hle,
      Instant.lt_ofSeconds_iff.2 hlt, ?_⟩
    intro x hx hsx hxe
    have hlower := Instant.ofSeconds_le_iff.1 hsx
    have hupper := Instant.lt_ofSeconds_iff.1 hxe
    exact (bucketStart_iff_starts hcount hfits (hbetween hs he hlower hupper) hx).2
      ⟨s, hsame x.seconds hlower hupper, rfl⟩

/-! ## Spans of time -/

/-- The unit of a span has a fixed length. -/
lemma seconds?_of_isSpan (hi : i.IsSpan) : ∃ length, i.unit.seconds? = some length := by
  apply Option.ne_none_iff_exists'.1
  rcases hi with hexact | ⟨-, hsome⟩
  · exact seconds?_ne_none hexact
  · exact hsome

/-- Two seconds have the same start of a span exactly if clocks are ahead at both by the same, up to
a multiple of the span, and the second one is not further from the start than the span. -/
lemma boundary_eq_iff_of_isSpan (hcount : 0 < i.count.toInt) (hi : i.IsSpan) {x : Int} :
    i.boundary (i.index (r.shown x)) - r.offset x =
        i.boundary (i.index (r.shown n)) - r.offset n ↔
      (i.boundary (i.index (r.shown n) + 1) - i.boundary (i.index (r.shown n))) ∣
        r.offset x - r.offset n ∧
      i.boundary (i.index (r.shown n)) - r.offset n ≤ x ∧
      x < i.boundary (i.index (r.shown n) + 1) - r.offset n := by
  obtain ⟨length, hlength⟩ := seconds?_of_isSpan hi
  have hnext : ∀ j, i.boundary (j + 1) = i.boundary j + i.count.toInt * length := by
    intro j
    rw [boundary_add hlength, Int.one_mul]
  have hshown : ∀ m, r.shown m = m + r.offset m := fun m => rfl
  rw [hnext (i.index (r.shown n)), add_sub_cancel_left]
  constructor
  · intro hsame
    obtain ⟨hle, hlt⟩ := (Interval.index_eq_iff hcount _ _).1 (rfl : i.index (r.shown x) = _)
    rw [hnext] at hlt
    have hfar := boundary_add hlength (i.index (r.shown n))
      (i.index (r.shown x) - i.index (r.shown n))
    rw [add_sub_cancel] at hfar
    have hx := hshown x
    refine ⟨⟨i.index (r.shown x) - i.index (r.shown n), ?_⟩, by omega, by omega⟩
    rw [Int.mul_comm]
    omega
  · rintro ⟨⟨k, hk⟩, hle, hlt⟩
    have hfar := boundary_add hlength (i.index (r.shown n)) k
    rw [Int.mul_comm] at hk
    have hx := hshown x
    have hindex : i.index (r.shown x) = i.index (r.shown n) + k := by
      apply (Interval.index_eq_iff hcount _ _).2
      rw [hnext, hfar]
      omega
    rw [hindex, hfar]
    omega

/-- **Spans of time** are whole exactly if they have a start and an end, contain their time, do not
end after their length, and clocks are changed in them by multiples of their length only. -/
theorem whole_iff_of_isSpan (hcount : 0 < i.count.toInt) (hfits : i.Fits)
    (hrange : inRange t.seconds = true) (ht : t.nanos < nanosPerSecond) (hi : i.IsSpan)
    (hj : i.index (r.shown t.seconds) = j) (hs : i.boundary j - r.offset t.seconds = s) :
    i.Whole (.region r) t ↔
      inRange s = true ∧ ∃ e, r.EndsAt i j s e ∧ t.seconds < e ∧
        e ≤ i.boundary (j + 1) - r.offset t.seconds ∧ ∀ x, s ≤ x → x < e →
          (i.boundary (j + 1) - i.boundary j) ∣ r.offset x - r.offset t.seconds ∧
          (i.count = 1 → inRange (r.shown x) = true ∧ inRange (s + r.offset x) = true) := by
  have hsame := fun x => @boundary_eq_iff_of_isSpan r i t.seconds hcount hi x
  rw [hj, hs] at hsame
  have hstarts : ∀ x, r.Starts i x s ↔ inRange s = true ∧
      i.boundary (i.index (r.shown x)) - r.offset x = s ∧
      (i.count = 1 → inRange (r.shown x) = true ∧ inRange (s + r.offset x) = true) := by
    intro x
    constructor
    · intro h
      cases h with
      | span _ hrange hsingle =>
        rw [Int.sub_add_cancel]
        exact ⟨hrange, rfl, hsingle⟩
      | calendar hi' => exact absurd hi hi'
    · rintro ⟨hrange, rfl, hsingle⟩
      rw [Int.sub_add_cancel] at hsingle
      exact .span hi hrange hsingle
  rw [whole_iff_seconds hcount hfits hrange ht, hj]
  constructor
  · rintro ⟨s', e, hstart, he, hle, hlt, hbucket⟩
    obtain rfl : s' = s := by
      cases hstart with
      | span => rw [← hs, hj]
      | calendar hi' => exact absurd hi hi'
    refine ⟨((hstarts _).1 hstart).1, e, he, hlt, ?_, ?_⟩
    · -- The second a whole length after the start has another start.
      by_contra hlate
      have hnext := Interval.boundary_lt_succ hcount j
      have hlast := ((hstarts _).1 (hbucket (i.boundary (j + 1) - r.offset t.seconds)
        (by omega) (by omega))).2.1
      have := ((hsame _).1 hlast).2.2
      omega
    · intro x hx hxe
      obtain ⟨-, hboundary, hsingle⟩ := (hstarts x).1 (hbucket x hx hxe)
      exact ⟨((hsame x).1 hboundary).1, hsingle⟩
  · rintro ⟨hstart, e, he, hlt, hlate, hbucket⟩
    have hle : s ≤ t.seconds := by
      have := ((Interval.index_eq_iff hcount _ _).1 hj).1
      have hshown : r.shown t.seconds = t.seconds + r.offset t.seconds := rfl
      omega
    have hx : ∀ x, s ≤ x → x < e → r.Starts i x s := by
      intro x hx hxe
      obtain ⟨hdvd, hsingle⟩ := hbucket x hx hxe
      exact (hstarts x).2 ⟨hstart, (hsame x).2 ⟨hdvd, hx, by omega⟩, hsingle⟩
    exact ⟨s, e, hx _ hle hlt, he, hle, hlt, hx⟩

/-! ## Units of the calendar -/

/-- Units of the calendar are not shorter than a day. -/
lemma boundary_add_day_le (hcount : 0 < i.count.toInt) (hu : i.unit.isExact = false) (j : Int) :
    i.boundary j + 86400 ≤ i.boundary (j + 1) := by
  cases hs : i.unit.seconds? with
  | some length =>
    have hday : 86400 ≤ length := by
      revert hu hs
      cases i.unit <;> simp [DateUnit.isExact, DateUnit.seconds?] <;> rintro rfl <;> decide
    have hlong : length ≤ i.count.toInt * length := by
      have := Int.mul_le_mul_of_nonneg_right (Int.add_one_le_iff.2 hcount) (by omega : 0 ≤ length)
      omega
    rw [boundary_add hs]
    omega
  | none =>
    have hlt := Interval.boundary_lt_succ hcount j
    rw [Interval.boundary_of_months hs, Interval.boundary_of_months hs] at hlt ⊢
    unfold secondsPerDay at hlt ⊢
    omega

/-- What is not a span goes by units of the calendar. -/
lemma isExact_of_not_isSpan (hi : ¬ i.IsSpan) : i.unit.isExact = false :=
  Bool.not_eq_true _ ▸ (not_or.1 hi).1

/-- No second is the start of two units of the calendar. -/
lemma index_eq_of_standsFor (hcount : 0 < i.count.toInt) (hi : ¬ i.IsSpan) {k : Int}
    (h : r.StandsFor (i.boundary j) s) (h' : r.StandsFor (i.boundary k) s) : j = k := by
  have hday := boundary_add_day_le hcount (isExact_of_not_isSpan hi)
  have hlt : ∀ {j k : Int}, j < k → i.boundary j + 86400 ≤ i.boundary k := by
    intro j k hjk
    exact (hday j).trans (Interval.boundary_mono hcount (Int.add_one_le_iff.2 hjk))
  have hshown := h.shown_eq
  have hshown' := h'.shown_eq
  rcases lt_trichotomy j k with hjk | hjk | hjk
  · have := hlt hjk
    omega
  · exact hjk
  · have := hlt hjk
    omega

/-- **Units of the calendar** are whole exactly if they have a start and an end, contain their time,
and clocks show no times of another one between them. -/
theorem whole_iff_of_calendar (hcount : 0 < i.count.toInt) (hfits : i.Fits)
    (hrange : inRange t.seconds = true) (ht : t.nanos < nanosPerSecond) (hi : ¬ i.IsSpan)
    (hj : i.index (r.shown t.seconds) = j) :
    i.Whole (.region r) t ↔ ∃ s e, r.StandsFor (i.boundary j) s ∧ r.EndsAt i j s e ∧
      s ≤ t.seconds ∧ t.seconds < e ∧
      ∀ x, s ≤ x → x < e → i.index (r.shown x) = j ∧ r.Opens i x := by
  rw [whole_iff_seconds hcount hfits hrange ht, hj]
  constructor
  · rintro ⟨s, e, hstart, he, hle, hlt, hbucket⟩
    have hstarts : ∀ x, r.Starts i x s →
        r.Opens i x ∧ r.StandsFor (i.boundary (i.index (r.shown x))) s := by
      intro x hx
      cases hx with
      | span hi' => exact absurd hi' hi
      | calendar _ hopens hs => exact ⟨hopens, hs⟩
    obtain ⟨-, hs⟩ := hstarts _ hstart
    rw [hj] at hs
    refine ⟨s, e, hs, he, hle, hlt, ?_⟩
    intro x hx hxe
    obtain ⟨hopens, hs'⟩ := hstarts x (hbucket x hx hxe)
    exact ⟨index_eq_of_standsFor hcount hi hs' hs, hopens⟩
  · rintro ⟨s, e, hs, he, hle, hlt, hbucket⟩
    have hx : ∀ x, s ≤ x → x < e → r.Starts i x s := by
      intro x hx hxe
      obtain ⟨hindex, hopens⟩ := hbucket x hx hxe
      exact .calendar hi hopens (hindex ▸ hs)
    exact ⟨s, e, hx _ hle hlt, he, hle, hlt, hx⟩

/-! ## Away from changes of clocks -/

/-- A time on the wall stands for the second at which clocks show it, if they were not changed for
two days before. -/
lemma standsFor_of_unchanged {lo hi o w : Int}
    (hsteady : ∀ n, lo - 172800 ≤ n → n ≤ hi → r.offset n = o) (hlo : lo ≤ w - o)
    (hhi : w - o ≤ hi) (hrange : inRange (w - o) = true) : r.StandsFor w (w - o) := by
  have hshown : ∀ n, r.shown n = n + r.offset n := fun n => rfl
  have ho : r.offset (w - o) = o := hsteady _ (by omega) hhi
  refine .inl ⟨⟨?_, ?_⟩, hrange⟩
  · show r.shown (w - o) = w
    have := hshown (w - o)
    omega
  · rintro n hn
    replace hn : r.shown n = w := hn
    rw [hshown] at hn
    by_contra hearly
    by_cases hlong : lo - 172800 ≤ n
    · have := hsteady n hlong (by omega)
      omega
    · -- Clocks would have to be changed by two days.
      have hbefore := r.offset_bounds n
      have hnow := r.offset_bounds (w - o)
      omega

/-- **Away from changes of clocks** every bucket is whole: it is enough that they were not changed
from two days before its start until its end. -/
theorem whole_of_unchanged (hcount : 0 < i.count.toInt) (hfits : i.Fits)
    (hrange : inRange t.seconds = true) (ht : t.nanos < nanosPerSecond)
    (hj : i.index (r.shown t.seconds) = j)
    (hs : i.boundary j - r.offset t.seconds = s)
    (he : i.boundary (j + 1) - r.offset t.seconds = e)
    (hmin : minSeconds + 172800 ≤ s) (hmax : e + 172800 ≤ maxSeconds)
    (hchanges : ∀ c ∈ r.changes, c.1 ≤ s - 172800 ∨ e < c.1) : i.Whole (.region r) t := by
  have hshown : ∀ n, r.shown n = n + r.offset n := fun n => rfl
  obtain ⟨hle, hlt⟩ := (Interval.index_eq_iff hcount _ _).1 hj
  have hnow := r.offset_bounds t.seconds
  have hwall := hshown t.seconds
  have hsteady : ∀ n, s - 172800 ≤ n → n ≤ e → r.offset n = r.offset t.seconds := by
    intro n hn hne
    exact offset_eq_of_unchanged hchanges ⟨hn, hne⟩ (by omega)
  have hstart : r.shown s = i.boundary j := by
    have := hsteady s (by omega) (by omega)
    have := hshown s
    omega
  have hend : r.EndsAt i j s e := by
    cases hu : i.unit.isExact with
    | true =>
      have hlength : s + (i.boundary (j + 1) - i.boundary j) = e := by omega
      have hrange : inRange (s + (i.boundary (j + 1) - i.boundary j)) = true :=
        inRange_iff.2 (by omega)
      exact hlength ▸ .exact hu hrange
    | false =>
      have hnext : i.boundary (j + 1) + (r.shown s - i.boundary j) = i.boundary (j + 1) := by omega
      refine .calendar hu (inRange_iff.2 (by omega)) ?_ ?_
      · rw [hnext]
        exact inRange_iff.2 (by omega)
      · rw [hnext, ← he]
        exact standsFor_of_unchanged hsteady (by omega) (by omega) (inRange_iff.2 (by omega))
  by_cases hi : i.IsSpan
  · apply (whole_iff_of_isSpan hcount hfits hrange ht hi hj hs).2
    refine ⟨inRange_iff.2 (by omega), e, hend, by omega, by omega, ?_⟩
    intro x hx hxe
    have hwx := hshown x
    rw [hsteady x (by omega) (by omega)] at hwx ⊢
    rw [sub_self]
    exact ⟨dvd_zero _, fun _ => ⟨inRange_iff.2 (by omega), inRange_iff.2 (by omega)⟩⟩
  · apply (whole_iff_of_calendar hcount hfits hrange ht hi hj).2
    refine ⟨s, e, ?_, hend, by omega, by omega, ?_⟩
    · rw [← hs]
      exact standsFor_of_unchanged hsteady (by omega) (by omega) (inRange_iff.2 (by omega))
    · intro x hx hxe
      have hox := hsteady x (by omega) (by omega)
      have hwx := hshown x
      have hindex : i.index (r.shown x) = j :=
        (Interval.index_eq_iff hcount _ _).2 (by omega)
      refine ⟨hindex, ⟨inRange_iff.2 (by omega), hindex.symm ▸ inRange_iff.2 (by omega), ?_⟩⟩
      intro hone
      -- The month starts within the bucket.
      have hmonths : i.unit.seconds? = none := by
        by_contra hsome
        exact hi (.inr ⟨hone, hsome⟩)
      have hlower := Interval.boundary_le_month hmonths (j := j) (w := r.shown x) (by omega)
      have hupper := (Interval.le_index_iff (i := ⟨1, .month⟩) (by decide) _ (r.shown x)).1 le_rfl
      exact ⟨inRange_iff.2 (by omega), _, standsFor_of_unchanged hsteady
        (w := Interval.boundary ⟨1, .month⟩ (Interval.index ⟨1, .month⟩ (r.shown x)))
        (by omega) (by omega) (inRange_iff.2 (by omega))⟩

end Region

/-- **When buckets are whole.** Let the time as many units later as an interval has be in range. Let
`s` and `e` be the boundaries on the wall between which the time lies on the clocks.

* A span of time (hours and what is shorter, several days or weeks) is whole exactly if it starts
  and ends in range, contains its time, does not end after its length, and if clocks are changed
  within it by multiples of its length only (and, for a single one, show its times and its start).
* Another interval is whole exactly if `s` and its end stand for times, if these lie around the
  time, and if clocks show no times before `s`, or from `e` on, between them (and, for several
  months, the months to which rounding goes on the way have a start).
* Every interval is whole if clocks were not changed from two days before its start until its end.

**Proof sketch.** Rounding and shifting in a region are told by what clocks show and by what times
on the wall stand for. All times of a bucket have its start: for spans this says that clocks are
ahead by the same up to whole spans, and for units of the calendar that their start on the wall is
the same, since no time stands for the starts of two of them. -/
theorem Interval.whole_iff {r : Region} {i : Interval} {t : Instant}
    (hcount : 0 < i.count.toInt) (hrange : inRange t.seconds = true)
    (ht : t.nanos < nanosPerSecond)
    (hreach : ∃ later, i.unit.add (Zone.utc.localize t) i.count.toInt .utc = .ok later) :
    let offset := r.offset t.seconds
    let j := i.index (t.seconds + offset)
    let s := i.boundary j
    let e := i.boundary (j + 1)
    (i.IsSpan → (i.Whole (.region r) t ↔
      inRange (s - offset) = true ∧ ∃ stop, r.EndsAt i j (s - offset) stop ∧ t.seconds < stop ∧
        stop ≤ e - offset ∧ ∀ x, s - offset ≤ x → x < stop →
          (e - s) ∣ r.offset x - offset ∧
          (i.count = 1 →
            inRange (r.shown x) = true ∧ inRange (s - offset + r.offset x) = true))) ∧
    (¬ i.IsSpan → (i.Whole (.region r) t ↔
      ∃ start stop, r.StandsFor s start ∧ r.EndsAt i j start stop ∧
        start ≤ t.seconds ∧ t.seconds < stop ∧ ∀ x, start ≤ x → x < stop →
          s ≤ r.shown x ∧ r.shown x < e ∧ r.Opens i x)) ∧
    (minSeconds + 172800 ≤ s - offset → e - offset + 172800 ≤ maxSeconds →
      (∀ c ∈ r.changes, c.1 ≤ s - offset - 172800 ∨ e - offset < c.1) →
      i.Whole (.region r) t) := by
  intro offset j s e
  obtain ⟨later, hlater⟩ := hreach
  have hfits := fits_of_add hrange ht (by decide) hlater
  refine ⟨?_, ?_, ?_⟩
  · intro hi
    exact Region.whole_iff_of_isSpan hcount hfits hrange ht hi rfl rfl
  · intro hi
    have hbetween : ∀ x, i.index (r.shown x) = j ↔ s ≤ r.shown x ∧ r.shown x < e :=
      fun x => index_eq_iff hcount _ _
    simp only [Region.whole_iff_of_calendar hcount hfits hrange ht hi rfl, ← and_assoc, ← hbetween]
    rfl
  · intro hmin hmax hchanges
    exact Region.whole_of_unchanged hcount hfits hrange ht rfl rfl rfl hmin hmax hchanges

/-- In New York no clocks are changed around the fourth of July 2024, so that at its noon the day
and the two days that start with it are whole. -/
theorem Interval.fourth_of_july_whole :
    (Interval.mk 1 .day).Whole (.region Regions.newYork) ⟨1720108800, 0⟩ ∧
    (∃ start stop : Int, Regions.newYork.StandsFor 1720051200 start ∧ start ≤ 1720108800 ∧
      1720108800 < stop) ∧
    (Interval.mk 2 .day).Whole (.region Regions.newYork) ⟨1720108800, 0⟩ ∧
    ∃ stop : Int, 1720108800 < stop ∧ ∀ x, 1720065600 ≤ x → x < stop →
      172800 ∣ Regions.newYork.offset x - -14400 := by
  obtain ⟨-, hday, hwhole⟩ :=
    whole_iff (r := Regions.newYork) (i := ⟨1, .day⟩) (t := ⟨1720108800, 0⟩) (by decide)
    (by decide) (by decide) ⟨_, rfl⟩
  obtain ⟨hspan, -, hwhole'⟩ :=
    whole_iff (r := Regions.newYork) (i := ⟨2, .day⟩) (t := ⟨1720108800, 0⟩) (by decide)
    (by decide) (by decide) ⟨_, rfl⟩
  replace hwhole := hwhole (by decide +kernel) (by decide +kernel) (by decide +kernel)
  replace hwhole' := hwhole' (by decide +kernel) (by decide +kernel) (by decide +kernel)
  obtain ⟨start, stop, hstart, -, hle, hlt, -⟩ := (hday (by decide)).1 hwhole
  obtain ⟨-, stop', -, hlt', -, hchanged⟩ := (hspan (by decide)).1 hwhole'
  have hoffset : Regions.newYork.offset 1720108800 = -14400 := by decide +kernel
  have hday : Interval.boundary ⟨1, .day⟩ (Interval.index ⟨1, .day⟩ (1720108800 + -14400)) =
      1720051200 := by decide +kernel
  have hdays : Interval.boundary ⟨2, .day⟩ (Interval.index ⟨2, .day⟩ (1720108800 + -14400)) =
      1720051200 := by decide +kernel
  have hnext : Interval.boundary ⟨2, .day⟩ (Interval.index ⟨2, .day⟩ (1720108800 + -14400) + 1) =
      1720224000 := by decide +kernel
  dsimp only at hstart hchanged
  rw [hoffset, hday] at hstart
  simp only [hoffset, hdays, hnext] at hchanged
  refine ⟨hwhole, ⟨start, stop, hstart, hle, hlt⟩, hwhole', stop', hlt', ?_⟩
  intro x hx hxe
  exact (hchanged x hx hxe).1

/-- The bucket of two days of a time near midnight in New York, on the day after clocks were put
forward, ends before the time: it starts at the eleventh hour of the evening before its first day,
since clocks were not yet changed then, and ends two days later on the wall. -/
theorem Interval.two_days_not_whole :
    let i : Interval := ⟨2, .day⟩
    let t : Instant := ⟨1710214200, 0⟩
    let zone := Zone.region Regions.newYork
    (∃ earlier later, i.unit.add (zone.localize t) (-2) zone = .ok earlier ∧
      i.unit.add (zone.localize t) 2 zone = .ok later) ∧
    i.bucketStart t zone = .ok ⟨1710043200, 0⟩ ∧
    i.unit.add (zone.localize ⟨1710043200, 0⟩) 2 zone = .ok ⟨⟨1710212400, 0⟩, -14400⟩ ∧
    ¬ i.Whole zone t := by
  intro i t zone
  have hstart : i.bucketStart t zone = .ok ⟨1710043200, 0⟩ := by decide +kernel
  have hend : i.unit.add (zone.localize ⟨1710043200, 0⟩) 2 zone =
      .ok ⟨⟨1710212400, 0⟩, -14400⟩ := by decide +kernel
  have hearlier : i.unit.add (zone.localize t) (-2) zone = .ok ⟨⟨1710045000, 0⟩, -18000⟩ := by
    decide +kernel
  have hlater : i.unit.add (zone.localize t) 2 zone = .ok ⟨⟨1710387000, 0⟩, -14400⟩ := by
    decide +kernel
  refine ⟨⟨_, _, hearlier, hlater⟩, hstart, hend, ?_⟩
  rintro ⟨s, stop, hs, hstop, -, hlt, -⟩
  obtain rfl := Except.ok.inj (hstart.symm.trans hs)
  obtain rfl := Except.ok.inj (hend.symm.trans hstop)
  exact absurd hlt (by decide)

end Sift
