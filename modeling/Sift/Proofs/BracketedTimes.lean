import Sift.Proofs.FixedClocks
import Sift.Proofs.RegionalBuckets
import Sift.Proofs.Sequencing

/-!
# Times between what they are rounded to

Rounding a time down and up should lead to two times with the time between them. Hours and what is
shorter always do so. Days and what is longer start at a midnight on the wall, and the time that a
skipped midnight stands for is an hour later whatever clocks skip, so that a time can be rounded
down to a later one, or not at all. A midnight that clocks show twice comes too early for the times
before it is shown again. Where clocks are changed away from midnights, and where a midnight is
skipped by an hour at most, every time lies between what it is rounded to.

## Main definitions

* `Sift.DateUnit.Brackets`: a time lies between what it is rounded down and up to.
* `Sift.Region.Transition`: a change of clocks, with the distances from UTC on both sides of it.
* `Sift.Region.KeepsMidnights`: clocks are changed away from midnights, or by an hour from them.

## Main results

* `Sift.Region.brackets_iff_seconds`: rounding around a time, by the second.
* `Sift.Region.exists_reaches`: clocks that keep a time on the wall reach it once.
* `Sift.DateUnit.brackets_iff`: when a time lies between what it is rounded to.
-/

set_option autoImplicit false

namespace Sift

/-- A time is rounded down and up, and lies between what it is rounded to. -/
def DateUnit.Brackets (u : DateUnit) (z : Zone) (t : Instant) : Prop :=
  ∃ first last, u.floor (z.localize t) z = .ok first ∧ u.ceil (z.localize t) z = .ok last ∧
    first.instant ≤ t ∧ t ≤ last.instant

/-- Of times in milliseconds, those until a millisecond before a second are those before it. -/
lemma Instant.le_previousMilli_iff {n : Int} {t : Instant} (ht : t.InMillis) :
    t ≤ (⟨n, 0⟩ : Instant).previousMilli ↔ t.seconds < n := by
  have hlast : (⟨n, 0⟩ : Instant).previousMilli = ⟨n - 1, 999000000⟩ := by
    simp [previousMilli, nanosPerSecond]
  obtain ⟨m, hm, hnanos⟩ := ht.fraction
  rw [hlast, le_iff]
  dsimp only
  omega

namespace Region

open Sift.Interval (boundary index)

variable {r : Region} {u : DateUnit} {t : Instant} {n m w : Int}

/-! ## Rounding by the second -/

/-- A single unit is far from the ends of 64 bits. -/
lemma fits_single (u : DateUnit) : (Interval.mk 1 u).Fits := by
  constructor
  · intro seconds hs
    show 1 * seconds * 1000 < _
    cases u <;> simp only [DateUnit.seconds?, Option.some.injEq, reduceCtorEq] at hs <;> omega
  · intro hs
    cases u <;> decide

/-- **Rounding around a time**, by the second: the unit starts until then and ends after it. -/
theorem brackets_iff_seconds (hrange : inRange t.seconds = true) (ht : t.InMillis) :
    u.Brackets (.region r) t ↔ ∃ s e, r.Starts ⟨1, u⟩ t.seconds s ∧
      r.EndsAt ⟨1, u⟩ (index ⟨1, u⟩ (r.shown t.seconds)) s e ∧ s ≤ t.seconds ∧ t.seconds < e := by
  have hbucket : Interval.bucketStart ⟨1, u⟩ t (.region r) =
      (u.floor ((Zone.region r).localize t) (.region r)).map ZonedTime.instant := if_pos rfl
  have hstarts := @bucketStart_iff_starts r ⟨1, u⟩ t DateUnit.count_one_pos (fits_single u) hrange
    ht.nanos_lt
  rw [hbucket] at hstarts
  -- Shifting looks at the instant alone.
  have hadd : ∀ first : ZonedTime, u.add first 1 (.region r) =
      u.add ((Zone.region r).localize first.instant) (Interval.mk 1 u).count.toInt (.region r) :=
    fun first => rfl
  constructor
  · rintro ⟨first, last, hfirst, hlast, hle, hlt⟩
    obtain ⟨s, hs, hinstant⟩ := (hstarts (x := first.instant)).1 (by rw [hfirst]; rfl)
    unfold DateUnit.ceil at hlast
    rw [hfirst] at hlast
    dsimp only at hlast
    split at hlast
    · cases hlast
    · rename_i next hnext
      obtain rfl := Except.ok.inj hlast
      rw [hadd, hinstant] at hnext
      obtain ⟨e, he, rfl⟩ := (add_iff_endsAt hs.shown_first).1 hnext
      rw [hinstant, Instant.ofSeconds_le_iff] at hle
      exact ⟨s, e, hs, he, hle, (Instant.le_previousMilli_iff ht).1 hlt⟩
  · rintro ⟨s, e, hs, he, hle, hlt⟩
    obtain ⟨first, hfirst, hinstant⟩ := Sequencing.exists_ok_of_map (hstarts.2 ⟨s, hs, rfl⟩)
    have hnext := (add_iff_endsAt hs.shown_first).2 ⟨e, he, rfl⟩
    refine ⟨first, ⟨(⟨e, 0⟩ : Instant).previousMilli, r.offset e⟩, hfirst, ?_, ?_,
      (Instant.le_previousMilli_iff ht).2 hlt⟩
    · unfold DateUnit.ceil
      rw [hfirst]
      dsimp only
      rw [hadd, hinstant, hnext]
      rfl
    · rw [hinstant]
      exact Instant.ofSeconds_le_iff.2 hle

section

variable (ht : t.InMillis) (hmin : minSeconds + 63244800 ≤ t.seconds)
  (hmax : t.seconds + 63244800 ≤ maxSeconds)

include ht hmin hmax

/-- Times lie between the ends of their hour, and of what is shorter, whatever clocks do. -/
lemma brackets_of_isExact (hu : u.isExact = true) : u.Brackets (.region r) t := by
  have hshown : r.shown t.seconds = t.seconds + r.offset t.seconds := rfl
  have hoffset := r.offset_bounds t.seconds
  obtain ⟨hle, hlt⟩ := (Interval.index_eq_iff DateUnit.count_one_pos _ _).1
    (rfl : index ⟨1, u⟩ (r.shown t.seconds) = _)
  have hlength := DateUnit.boundary_succ_le u (index ⟨1, u⟩ (r.shown t.seconds))
  exact (brackets_iff_seconds (inRange_iff.2 (by omega)) ht).2 ⟨_, _,
    .span (.inl hu) (inRange_iff.2 (by omega))
      (fun _ => ⟨inRange_iff.2 (by omega), inRange_iff.2 (by omega)⟩),
    .exact hu (inRange_iff.2 (by omega)), by omega, by omega⟩

/-- **Days and what is longer** lie around a time exactly if their start stands for a second until
then, and the start of the next one, moved as that start is moved, for a second after it. -/
theorem brackets_iff_of_calendar (hu : u.isExact = false) : u.Brackets (.region r) t ↔
    ∃ start stop,
      r.StandsFor (boundary ⟨1, u⟩ (index ⟨1, u⟩ (r.shown t.seconds))) start ∧
      start ≤ t.seconds ∧
      r.StandsFor (boundary ⟨1, u⟩ (index ⟨1, u⟩ (r.shown t.seconds) + 1) +
        (r.shown start - boundary ⟨1, u⟩ (index ⟨1, u⟩ (r.shown t.seconds)))) stop ∧
      t.seconds < stop := by
  have hshown : r.shown t.seconds = t.seconds + r.offset t.seconds := rfl
  have hoffset := r.offset_bounds t.seconds
  have hspan : ¬ (Interval.mk 1 u).IsSpan := by
    rintro (hexact | ⟨hone, -⟩)
    · exact Bool.false_ne_true (hu.symm.trans hexact)
    · exact hone rfl
  obtain ⟨hle, hlt⟩ := (Interval.index_eq_iff DateUnit.count_one_pos _ _).1
    (rfl : index ⟨1, u⟩ (r.shown t.seconds) = _)
  have hlength := DateUnit.boundary_succ_le u (index ⟨1, u⟩ (r.shown t.seconds))
  rw [brackets_iff_seconds (inRange_iff.2 (by omega)) ht]
  constructor
  · rintro ⟨s, e, hs, he, hle, hlt⟩
    cases hs with
    | span hi => exact absurd hi hspan
    | calendar _ _ hs =>
      cases he with
      | exact hu' => exact absurd (hu.symm.trans hu') Bool.false_ne_true
      | calendar _ _ _ he => exact ⟨s, e, hs, hle, he, hlt⟩
  · rintro ⟨s, e, hs, hle, he, hlt⟩
    have hstart := hs.shown_eq
    exact ⟨s, e, .calendar hspan ⟨inRange_iff.2 (by omega), inRange_iff.2 (by omega),
      fun h => absurd rfl h⟩ hs,
      .calendar hu (inRange_iff.2 (by omega)) (inRange_iff.2 (by omega)) he, hle, hlt⟩

end

/-! ## Changes of clocks -/

/-- A change of clocks. -/
structure Transition where
  /-- The second at which clocks are changed. -/
  second : Int
  /-- The seconds by which clocks are ahead of UTC before. -/
  before : Int
  /-- The seconds by which clocks are ahead of UTC from then on. -/
  after : Int
deriving DecidableEq

namespace Transition

/-- Clocks neither skip the time nor show it again, since it comes after what they show on both
sides of the change, or before. -/
def Keeps (c : Transition) (w : Int) : Prop :=
  c.second + c.before ≤ w ∧ c.second + c.after ≤ w ∨
    w < c.second + c.before ∧ w ≤ c.second + c.after

/-- Clocks skip the time, and show the one an hour later next. -/
def SkipsHour (c : Transition) (w : Int) : Prop :=
  c.second + c.before ≤ w ∧ c.second + c.after = w + 3600

/-- Clocks neither skip a time of the day nor show it again, on whatever day. -/
def KeepsDaily (c : Transition) (time : Int) : Prop := ∀ day : Int, c.Keeps (day * 86400 + time)

/-- Midnights are kept or skipped by an hour. -/
def SparesMidnights (c : Transition) : Prop :=
  ∀ day : Int, c.Keeps (day * 86400) ∨ c.SkipsHour (day * 86400)

variable {c : Transition} {time : Int}

/-- In terms of numbers of days: the time of day is shown by both clocks as often as by one of them.
-/
lemma keepsDaily_iff : c.KeepsDaily time ↔
    (c.second + c.before - time - 1) / 86400 = (if c.before ≤ c.after then
      (c.second + c.after - time - 1) / 86400 else (c.second + c.after - time) / 86400) := by
  unfold KeepsDaily Keeps
  constructor
  · intro h
    split
    · have := h ((c.second + c.after - time - 1) / 86400)
      omega
    · have := h ((c.second + c.before - time - 1) / 86400)
      omega
  · intro h day
    split at h <;> omega

/-- Midnights are kept, or the one that is skipped comes back after an hour. -/
lemma sparesMidnights_iff : c.SparesMidnights ↔ c.KeepsDaily 0 ∨
    (c.second + c.after) % 86400 = 3600 ∧ c.second + c.before ≤ c.second + c.after - 3600 ∧
      c.second + c.after - 90000 < c.second + c.before := by
  unfold SparesMidnights KeepsDaily
  constructor
  · intro h
    rw [or_iff_not_imp_left, not_forall]
    rintro ⟨day, hday⟩
    rw [Int.add_zero] at hday
    have hhour := (h day).resolve_left hday
    have hbefore := h (day - 1)
    unfold Keeps SkipsHour at *
    omega
  · rintro (h | h) day
    · exact .inl (by simpa using h day)
    · unfold Keeps SkipsHour
      omega

instance : Decidable (c.KeepsDaily time) := decidable_of_iff _ keepsDaily_iff.symm

instance : Decidable c.SparesMidnights := decidable_of_iff _ sparesMidnights_iff.symm

end Transition

/-- The changes of clocks from a list of instants with the distances from UTC from then on, after
the distance so far. -/
def transitionsFrom (before : Int) : List (Int × Int) → List Transition
  | [] => []
  | (second, after) :: rest => ⟨second, before, after⟩ :: transitionsFrom after rest

/-- The changes of clocks. -/
def transitions (r : Region) : List Transition := transitionsFrom r.initial r.changes

/-- Clocks are changed away from midnights, from a second on; or midnights may be skipped by an
hour, if one o'clock never is. -/
def KeepsMidnights (r : Region) (since : Int) : Prop :=
  (∀ c ∈ r.transitions, since ≤ c.second → c.KeepsDaily 0) ∨
    ∀ c ∈ r.transitions, since ≤ c.second → c.SparesMidnights ∧ c.KeepsDaily 3600

instance (r : Region) (since : Int) : Decidable (r.KeepsMidnights since) :=
  inferInstanceAs (Decidable (_ ∨ _))

/-- Clocks reach a time on the wall at a second: they show it or a later one from then on. -/
def Reaches (r : Region) (w n : Int) : Prop := ∀ m, n ≤ m ↔ w ≤ r.shown m

/-- Before the next change the distance from UTC stays the same. -/
lemma offsetFrom_of_lt {offset : Int} {changes : List (Int × Int)}
    (h : ∀ c ∈ changes, n < c.1) : offsetFrom offset changes n = offset := by
  cases changes with
  | nil => rfl
  | cons c rest =>
    obtain ⟨change, next⟩ := c
    exact if_pos (h _ List.mem_cons_self)

/-- Clocks that keep a time or skip it by an hour at every change reach it, and then show it or the
time an hour later. -/
lemma exists_reaches_from {offset : Int} {changes : List (Int × Int)}
    (hchanges : changes.Pairwise fun a b => a.1 < b.1)
    (h : ∀ c ∈ transitionsFrom offset changes, c.Keeps w ∨ c.SkipsHour w) :
    ∃ n, (∀ m, n ≤ m ↔ w ≤ m + offsetFrom offset changes m) ∧
      (n + offsetFrom offset changes n = w ∨ n + offsetFrom offset changes n = w + 3600 ∧
        ∃ c ∈ transitionsFrom offset changes, ¬ c.Keeps w) := by
  induction changes generalizing offset with
  | nil =>
    refine ⟨w - offset, fun m => ?_, .inl ?_⟩
    · rw [offsetFrom]
      omega
    · rw [offsetFrom]
      omega
  | cons change rest ih =>
    obtain ⟨second, next⟩ := change
    obtain ⟨hhead, hrest⟩ := List.pairwise_cons.1 hchanges
    obtain ⟨n, hn, hshown⟩ := ih hrest fun c hc => h c (List.mem_cons_of_mem _ hc)
    have hbefore : ∀ m, m < second →
        m + offsetFrom offset ((second, next) :: rest) m = m + offset := by
      intro m hm
      rw [offsetFrom, if_pos hm]
    have hafter : ∀ m, second ≤ m →
        m + offsetFrom offset ((second, next) :: rest) m = m + offsetFrom next rest m := by
      intro m hm
      rw [offsetFrom, if_neg (by omega)]
    have hlast : offsetFrom next rest (second - 1) = next :=
      offsetFrom_of_lt fun c hc => (Int.sub_lt_self _ Int.one_pos).trans (hhead c hc)
    have hfirst : offsetFrom next rest second = next := offsetFrom_of_lt hhead
    have hlast' := hn (second - 1)
    have hfirst' := hn second
    rw [hlast] at hlast'
    rw [hfirst] at hfirst'
    rcases h _ List.mem_cons_self with (⟨hx, hy⟩ | ⟨hx, hy⟩) | ⟨hx, hy⟩
    · -- The time is reached after the change.
      dsimp only at hx hy
      refine ⟨n, fun m => ?_, ?_⟩
      · by_cases hm : m < second
        · rw [hbefore m hm]
          omega
        · rw [hafter m (by omega)]
          exact hn m
      · rw [hafter n (by omega)]
        refine hshown.imp_right ?_
        rintro ⟨hhour, c, hc, hlost⟩
        exact ⟨hhour, c, List.mem_cons_of_mem _ hc, hlost⟩
    · -- It is reached before the change.
      dsimp only at hx hy
      refine ⟨w - offset, fun m => ?_, .inl ?_⟩
      · by_cases hm : m < second
        · rw [hbefore m hm]
          omega
        · rw [hafter m (by omega), ← hn m]
          omega
      · rw [hbefore _ (by omega)]
        omega
    · -- It is skipped by the change.
      dsimp only at hx hy
      refine ⟨second, fun m => ?_, .inr ⟨?_, _, List.mem_cons_self, ?_⟩⟩
      · by_cases hm : m < second
        · rw [hbefore m hm]
          omega
        · rw [hafter m (by omega), ← hn m]
          omega
      · rw [hafter _ le_rfl, hfirst]
        exact hy
      · unfold Transition.Keeps
        dsimp only
        omega

/-- **Clocks that keep a time on the wall reach it once**, and show it then. If they may skip it by
an hour, they show it or the time an hour later then. -/
theorem exists_reaches (h : ∀ c ∈ r.transitions, c.Keeps w ∨ c.SkipsHour w) :
    ∃ n, r.Reaches w n ∧ (r.shown n = w ∨
      r.shown n = w + 3600 ∧ ∃ c ∈ r.transitions, ¬ c.Keeps w) :=
  exists_reaches_from r.pairwise_changes h

/-- Clocks that keep a time on the wall show it when they reach it. -/
lemma exists_reaches_of_keeps (h : ∀ c ∈ r.transitions, c.Keeps w) :
    ∃ n, r.Reaches w n ∧ r.shown n = w := by
  obtain ⟨n, hn, hshown⟩ := exists_reaches fun c hc => .inl (h c hc)
  refine ⟨n, hn, hshown.resolve_right ?_⟩
  rintro ⟨-, c, hc, hlost⟩
  exact hlost (h c hc)

/-! ## Midnights -/

/-- Clocks are less than a day ahead of UTC or behind it on both sides of a change. -/
lemma transition_bounds {c : Transition} (hc : c ∈ r.transitions) :
    (-86400 < c.before ∧ c.before < 86400) ∧ -86400 < c.after ∧ c.after < 86400 := by
  have hmem : ∀ (changes : List (Int × Int)) (o : Int), c ∈ transitionsFrom o changes →
      c.before ∈ o :: changes.map Prod.snd ∧ c.after ∈ o :: changes.map Prod.snd := by
    intro changes
    induction changes with
    | nil =>
      intro o hc
      cases hc
    | cons change rest ih =>
      intro o hc
      rcases List.mem_cons.1 hc with rfl | hc
      · exact ⟨List.mem_cons_self, List.mem_cons_of_mem _ List.mem_cons_self⟩
      · obtain ⟨hbefore, hafter⟩ := ih change.2 hc
        exact ⟨List.mem_cons_of_mem _ hbefore, List.mem_cons_of_mem _ hafter⟩
  obtain ⟨hbefore, hafter⟩ := hmem r.changes r.initial hc
  exact ⟨r.moderate _ hbefore, r.moderate _ hafter⟩

/-- Changes of clocks a day before a time on the wall keep it. -/
lemma keeps_of_early {c : Transition} (hc : c ∈ r.transitions)
    (hw : c.second + 86400 ≤ w) : c.Keeps w := by
  obtain ⟨hbefore, hafter⟩ := transition_bounds hc
  unfold Transition.Keeps
  omega

/-- Units of the calendar start at midnight. -/
lemma exists_boundary_eq (hu : u.isExact = false) (k : Int) :
    ∃ day : Int, boundary ⟨1, u⟩ k = day * 86400 := by
  cases u with
  | year => exact ⟨Date.firstDay (k * 12), rfl⟩
  | month => exact ⟨Date.firstDay (k * 1), rfl⟩
  | week =>
    refine ⟨k * 7 - 3, ?_⟩
    show k * (1 * (7 * 86400)) - 259200 = _
    omega
  | day =>
    refine ⟨k, ?_⟩
    show k * (1 * 86400) - 0 = _
    omega
  | hour | minute | second => cases hu

/-- A time that clocks keep stands for the second at which they reach it. -/
lemma exists_standsFor_of_keeps (hmin : minSeconds + 86400 ≤ w) (hmax : w + 86400 ≤ maxSeconds)
    (h : ∀ c ∈ r.transitions, c.Keeps w) :
    ∃ n, r.Reaches w n ∧ r.shown n = w ∧ r.StandsFor w n := by
  obtain ⟨n, hn, hshown⟩ := exists_reaches_of_keeps h
  have hwall : r.shown n = n + r.offset n := rfl
  have hoffset := r.offset_bounds n
  exact ⟨n, hn, hshown, .inl ⟨⟨hshown, fun m hw => (hn m).2 (Int.le_of_eq hw.symm)⟩,
    inRange_iff.2 (by omega)⟩⟩

/-- A time that clocks keep or skip by an hour stands for the second at which they reach it, if they
keep the time an hour later. -/
lemma exists_standsFor_of_hour (hmin : minSeconds + 86400 ≤ w) (hmax : w + 90000 ≤ maxSeconds)
    (h : ∀ c ∈ r.transitions, c.Keeps w ∨ c.SkipsHour w)
    (hhour : ∀ c ∈ r.transitions, c.Keeps (w + 3600)) :
    ∃ n, r.Reaches w n ∧ (r.shown n = w ∨ r.shown n = w + 3600) ∧ r.StandsFor w n := by
  obtain ⟨n, hn, hshown⟩ := exists_reaches h
  have hwall : r.shown n = n + r.offset n := rfl
  have hoffset := r.offset_bounds n
  rcases hshown with hshown | ⟨hshown, -⟩
  · exact ⟨n, hn, .inl hshown, .inl ⟨⟨hshown, fun m hw => (hn m).2 (Int.le_of_eq hw.symm)⟩,
      inRange_iff.2 (by omega)⟩⟩
  · obtain ⟨l, hl, hlater⟩ := exists_reaches_of_keeps hhour
    have hfirst : ∀ m, w ≤ r.shown m → n ≤ m := fun m hw => (hn m).2 hw
    -- From the second on at which clocks skip the time, they show the one an hour later.
    have hskipped : ∀ m, w ≤ r.shown m → w + 3600 ≤ r.shown m := by
      intro m hw
      have := hfirst m hw
      have := (hl n).2 (Int.le_of_eq hshown.symm)
      exact (hl m).1 (by omega)
    refine ⟨n, hn, .inr hshown, .inr ⟨fun m hm => ?_, inRange_iff.2 (by omega), ⟨hshown, ?_⟩,
      inRange_iff.2 (by omega)⟩⟩
    · have hw : r.shown m = w := hm.first.1
      have := hskipped m (Int.le_of_eq hw.symm)
      omega
    · intro m hw
      replace hw : r.shown m = w + 3600 := hw
      exact hfirst m (by omega)

/-- **Where midnights are kept**, or skipped by an hour at most, every time lies between what it is
rounded to.

**Proof sketch.** Clocks reach the midnight at the start of the unit once, and not after the time,
since they show a later time on the wall then. They reach the next one once, and after the time,
since they still show an earlier one then. If the start is skipped by an hour, the end moves by an
hour too, and what was said of the next midnight is said of one o'clock. -/
theorem brackets_of_keepsMidnights (ht : t.InMillis) (hmin : minSeconds + 63244800 ≤ t.seconds)
    (hmax : t.seconds + 63244800 ≤ maxSeconds) {since : Int}
    (hsince : since + 31795200 ≤ t.seconds) (h : r.KeepsMidnights since) :
    u.Brackets (.region r) t := by
  cases hu : u.isExact with
  | true => exact brackets_of_isExact ht hmin hmax hu
  | false =>
    have hlength := DateUnit.boundary_succ_le u (index ⟨1, u⟩ (r.shown t.seconds))
    obtain ⟨hle, hlt⟩ := (Interval.index_eq_iff DateUnit.count_one_pos _ _).1
      (rfl : index ⟨1, u⟩ (r.shown t.seconds) = _)
    obtain ⟨day, hday⟩ := exists_boundary_eq hu (index ⟨1, u⟩ (r.shown t.seconds))
    obtain ⟨next, hnext⟩ := exists_boundary_eq hu (index ⟨1, u⟩ (r.shown t.seconds) + 1)
    have hwall : r.shown t.seconds = t.seconds + r.offset t.seconds := rfl
    have hoffset := r.offset_bounds t.seconds
    rw [brackets_iff_of_calendar ht hmin hmax hu, hday, hnext]
    rw [hday] at hle hlength
    rw [hnext] at hlt hlength
    have hearly : ∀ c ∈ r.transitions, ¬ since ≤ c.second → ∀ w, day * 86400 ≤ w → c.Keeps w :=
      fun c hc hlt w hw => keeps_of_early hc (by omega)
    rcases h with h | h
    · have hkeeps : ∀ d : Int, day * 86400 ≤ d * 86400 →
          ∀ c ∈ r.transitions, c.Keeps (d * 86400) := by
        intro d hd c hc
        by_cases hc' : since ≤ c.second
        · simpa using h c hc hc' d
        · exact hearly c hc hc' _ hd
      obtain ⟨s, hs, hshown, hstart⟩ :=
        exists_standsFor_of_keeps (by omega) (by omega) (hkeeps day le_rfl)
      obtain ⟨e, he, -, hstop⟩ :=
        exists_standsFor_of_keeps (by omega) (by omega) (hkeeps next (by omega))
      refine ⟨s, e, hstart, (hs _).2 hle, ?_, Int.not_le.1 fun hlate => ?_⟩
      · rwa [hshown, Int.sub_self, Int.add_zero]
      · exact absurd ((he _).1 hlate) (Int.not_le.2 hlt)
    · have hspares : ∀ d : Int, day * 86400 ≤ d * 86400 → ∀ c ∈ r.transitions,
          (c.Keeps (d * 86400) ∨ c.SkipsHour (d * 86400)) ∧ c.Keeps (d * 86400 + 3600) := by
        intro d hd c hc
        by_cases hc' : since ≤ c.second
        · exact ⟨(h c hc hc').1 d, (h c hc hc').2 d⟩
        · exact ⟨.inl (hearly c hc hc' _ hd), hearly c hc hc' _ (by omega)⟩
      obtain ⟨s, hs, hshown | hshown, hstart⟩ := exists_standsFor_of_hour (by omega)
        (by omega) (fun c hc => (hspares day le_rfl c hc).1)
        fun c hc => (hspares day le_rfl c hc).2
      · obtain ⟨e, he, -, hstop⟩ := exists_standsFor_of_hour (by omega) (by omega)
          (fun c hc => (hspares next (by omega) c hc).1)
          fun c hc => (hspares next (by omega) c hc).2
        refine ⟨s, e, hstart, (hs _).2 hle, ?_, Int.not_le.1 fun hlate => ?_⟩
        · rwa [hshown, Int.sub_self, Int.add_zero]
        · exact absurd ((he _).1 hlate) (Int.not_le.2 hlt)
      · obtain ⟨e, he, -, hstop⟩ := exists_standsFor_of_keeps (by omega) (by omega)
          fun c hc => (hspares next (by omega) c hc).2
        refine ⟨s, e, hstart, (hs _).2 hle, ?_, Int.not_le.1 fun hlate => ?_⟩
        · rwa [hshown, add_sub_cancel_left]
        · have := (he _).1 hlate
          omega

end Region

/-- **When a time lies between what it is rounded to.** Let a time in milliseconds be two years or
more from the ends of the range of times. Let `first` and `next` be the starts on the wall of its
unit and of the next one.

* The time lies between the ends of its hour, and of what is shorter.
* It lies between the ends of its day, and of what is longer, exactly if `first` stands for a second
  `start` until then, and `next`, moved by as much as clocks are ahead of `first` at `start`, for a
  second after it.
* It lies between the ends of every unit if clocks have kept midnights for more than a year, or have
  skipped them by an hour and kept one o'clock.

**Proof sketch.** Rounding down leads to the second that `first` stands for, and rounding up to the
millisecond before the second that one more unit leads to from there. Hours start and end at fixed
distances from the time. If clocks keep `first`, they reach it once, which is until the time, since
they show a later one then; they reach `next` once too, which is after the time. -/
theorem DateUnit.brackets_iff {r : Region} {u : DateUnit} {t : Instant} (ht : t.InMillis)
    (hmin : minSeconds + 63244800 ≤ t.seconds) (hmax : t.seconds + 63244800 ≤ maxSeconds) :
    let i : Interval := ⟨1, u⟩
    let first := i.boundary (i.index (r.shown t.seconds))
    let next := i.boundary (i.index (r.shown t.seconds) + 1)
    (u.isExact = true → u.Brackets (.region r) t) ∧
    (u.isExact = false → (u.Brackets (.region r) t ↔
      ∃ start stop, r.StandsFor first start ∧ start ≤ t.seconds ∧
        r.StandsFor (next + (r.shown start - first)) stop ∧ t.seconds < stop)) ∧
    (∀ since, since + 31795200 ≤ t.seconds → r.KeepsMidnights since →
      u.Brackets (.region r) t) :=
  ⟨Region.brackets_of_isExact ht hmin hmax, Region.brackets_iff_of_calendar ht hmin hmax,
    fun _ hsince h => Region.brackets_of_keepsMidnights ht hmin hmax hsince h⟩

/-- The day on which clocks in São Paulo skipped the hour from midnight on, in November 2018, lies
around its noon: it starts at one o'clock and ends at one o'clock. -/
theorem DateUnit.skipped_midnight_brackets :
    DateUnit.Brackets .day (.region Regions.saoPaulo) ⟨1541340000, 0⟩ ∧
    ∃ start stop, Regions.saoPaulo.StandsFor 1541289600 start ∧ start ≤ 1541340000 ∧
      Regions.saoPaulo.StandsFor (1541376000 + (Regions.saoPaulo.shown start - 1541289600)) stop ∧
      1541340000 < stop := by
  obtain ⟨-, hday, hkept⟩ := brackets_iff (r := Regions.saoPaulo) (u := .day) (t := ⟨1541340000, 0⟩)
    ⟨by decide +kernel, 0, by decide, rfl⟩ (by decide) (by decide)
  have hbrackets := hkept (-31795200) (by decide) (by decide +kernel)
  have hfirst : Interval.boundary ⟨1, .day⟩
      (Interval.index ⟨1, .day⟩ (Regions.saoPaulo.shown 1541340000)) = 1541289600 := by
    decide +kernel
  have hnext : Interval.boundary ⟨1, .day⟩
      (Interval.index ⟨1, .day⟩ (Regions.saoPaulo.shown 1541340000) + 1) = 1541376000 := by
    decide +kernel
  have hends := (hday rfl).1 hbrackets
  dsimp only at hends
  rw [hfirst, hnext] at hends
  exact ⟨hbrackets, hends⟩

/-- Clocks in Kathmandu skipped the quarter of an hour from midnight on at the start of 1986. The
midnight stands for the second at which they show one o'clock, so that half past midnight is rounded
down to a later time. -/
theorem DateUnit.skipped_quarter_not_brackets :
    let zone := Zone.region Regions.kathmandu
    let t : Instant := ⟨504902700, 0⟩
    Regions.kathmandu ∈ regions ∧ t.InMillis ∧
    DateUnit.day.floor (zone.localize t) zone = .ok ⟨⟨504904500, 0⟩, 20700⟩ ∧
    t < ⟨504904500, 0⟩ ∧ ¬ DateUnit.day.Brackets zone t := by
  intro zone t
  have hfloor : DateUnit.day.floor (zone.localize t) zone = .ok ⟨⟨504904500, 0⟩, 20700⟩ := by
    decide +kernel
  refine ⟨by decide +kernel, ⟨by decide +kernel, 0, by decide, rfl⟩, hfloor, by decide, ?_⟩
  rintro ⟨first, last, hfirst, -, hle, -⟩
  obtain rfl := Except.ok.inj (hfloor.symm.trans hfirst)
  exact absurd hle (by decide)

end Sift
