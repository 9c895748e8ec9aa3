import Mathlib.Data.List.Chain
import Mathlib.Order.Bounds.Basic
import Sift.Proofs.IntervalTiling

/-!
# Clocks that are changed

The clocks of a region show some times twice and skip others. A time on the wall stands for the
first instant at which clocks show it, or else for the one at which they show the time an hour
later. With that relation, rounding and shifting in a region are told as on clocks that are never
changed.

## Main definitions

* `Sift.Region.shown`: what clocks show at a second.
* `Sift.Region.Shows`: the first second at which clocks show a time.
* `Sift.Region.StandsFor`: the second that a time on the wall is taken for.

## Main results

* `Sift.Region.ofWall_iff`: a time on the wall is taken for the second that it stands for.
* `Sift.Region.floor_iff`, `Sift.Region.add_iff`: rounding and shifting by units of the calendar.
* `Sift.Region.bucketStart_iff`: the start of an interval of the calendar.
* `Sift.Region.bucketStart_of_spans`: the start of an interval of time.
-/

set_option autoImplicit false

namespace Sift

/-- The interval is counted in spans of time: hours and what is shorter, and several days or weeks.
Others start where the calendar starts them. -/
def Interval.IsSpan (i : Interval) : Prop :=
  i.unit.isExact = true ∨ i.count ≠ 1 ∧ i.unit.seconds? ≠ none

instance (i : Interval) : Decidable i.IsSpan := inferInstanceAs (Decidable (_ ∨ _))

namespace Region

/-! ## What clocks show -/

/-- The seconds by which clocks are ahead of UTC at a second. -/
def offset (r : Region) (n : Int) : Int := offsetFrom r.initial r.changes n

/-- The second on the wall that clocks show. -/
def shown (r : Region) (n : Int) : Int := n + r.offset n

/-- Every change comes before all later ones. -/
lemma pairwise_changes (r : Region) : r.changes.Pairwise fun a b => a.1 < b.1 := by
  have hchain : ∀ changes : List (Int × Int), (∀ c ∈ changes.zip changes.tail, c.1.1 < c.2.1) →
      changes.IsChain fun a b => a.1 < b.1 := by
    intro changes
    induction changes with
    | nil => exact fun _ => .nil
    | cons a rest ih =>
      intro h
      cases rest with
      | nil => exact .singleton a
      | cons b rest =>
        exact .cons_cons (h (a, b) List.mem_cons_self)
          (ih fun c hc => h c (List.mem_cons_of_mem _ hc))
  have htrans : IsTrans (Int × Int) fun a b => a.1 < b.1 := ⟨fun _ _ _ => lt_trans⟩
  exact (hchain r.changes r.ordered).pairwise

/-- The distance from UTC is one of those that the region lists. -/
lemma offset_bounds (r : Region) (n : Int) :
    -86400 < r.offset n ∧ r.offset n < 86400 := by
  have hmem : ∀ (changes : List (Int × Int)) (o : Int),
      offsetFrom o changes n ∈ o :: changes.map Prod.snd := by
    intro changes
    induction changes with
    | nil =>
      intro o
      exact List.mem_cons_self
    | cons c rest ih =>
      intro o
      rw [offsetFrom]
      split
      · exact List.mem_cons_self
      · exact List.mem_cons_of_mem _ (ih c.2)
  exact r.moderate _ (hmem r.changes r.initial)

/-- Between two changes the distance from UTC stays the same. -/
lemma offset_eq_of_unchanged {r : Region} {lo hi n m : Int}
    (h : ∀ c ∈ r.changes, c.1 ≤ lo ∨ hi < c.1) (hn : lo ≤ n ∧ n ≤ hi) (hm : lo ≤ m ∧ m ≤ hi) :
    r.offset n = r.offset m := by
  have hfrom : ∀ (changes : List (Int × Int)) (o : Int), (∀ c ∈ changes, c.1 ≤ lo ∨ hi < c.1) →
      offsetFrom o changes n = offsetFrom o changes m := by
    intro changes
    induction changes with
    | nil =>
      intro o _
      rfl
    | cons c rest ih =>
      intro o hc
      have hsame : n < c.1 ↔ m < c.1 := by
        have := hc c List.mem_cons_self
        omega
      rw [offsetFrom, offsetFrom]
      by_cases hlt : n < c.1
      · rw [if_pos hlt, if_pos (hsame.1 hlt)]
      · rw [if_neg hlt, if_neg (fun h => hlt (hsame.2 h))]
        exact ih c.2 fun d hd => hc d (List.mem_cons_of_mem c hd)
  exact hfrom r.changes r.initial h

/-- Clocks show a time at a second in range, and not before. -/
structure Shows (r : Region) (w n : Int) : Prop where
  first : IsLeast {m | r.shown m = w} n
  range : inRange n = true

/-- A time on the wall is taken for the second at which clocks first show it, or, if there is none,
for the one at which they first show the time an hour later. -/
def StandsFor (r : Region) (w n : Int) : Prop :=
  r.Shows w n ∨ (∀ m, ¬ r.Shows w m) ∧ inRange (w + 3600) = true ∧ r.Shows (w + 3600) n

variable {r : Region} {w n m : Int}

/-- A time is shown first at one second only. -/
lemma Shows.unique (h : r.Shows w n) (h' : r.Shows w m) : n = m := h.first.unique h'.first

/-- A time stands for one second at most. -/
lemma StandsFor.unique (h : r.StandsFor w n) (h' : r.StandsFor w m) : n = m := by
  rcases h with h | ⟨hnone, -, h⟩
  · rcases h' with h' | ⟨hnone, -, -⟩
    · exact h.unique h'
    · exact absurd h (hnone n)
  · rcases h' with h' | ⟨-, -, h'⟩
    · exact absurd h' (hnone m)
    · exact h.unique h'

/-- Clocks show the time at the second that it stands for, or the time an hour later. -/
lemma StandsFor.shown_eq (h : r.StandsFor w n) : r.shown n = w ∨ r.shown n = w + 3600 := by
  rcases h with h | ⟨-, -, h⟩
  · exact .inl h.first.1
  · exact .inr h.first.1

/-- What a time stands for is in the range of the calendar. -/
lemma StandsFor.range (h : r.StandsFor w n) : inRange n = true := by
  rcases h with h | ⟨-, -, h⟩
  · exact h.range
  · exact h.range

/-- Clocks show a time before the next change if they do so from the last one on. -/
lemma firstOffset?_cons (since : Option Int) (offset change next : Int)
    (rest : List (Int × Int)) (w : Int) :
    firstOffset? since offset ((change, next) :: rest) w =
      if (∀ start ∈ since, start ≤ w - offset) ∧ w - offset < change then some offset
      else firstOffset? (some change) next rest w := by
  have hlt : w - offset < change ↔ w < change + offset := by omega
  conv_lhs => unfold firstOffset?
  cases since with
  | none => simp [hlt]
  | some start => simp [hlt, le_sub_iff_add_le]

/-- Clocks that never change again show a time at one second only. -/
lemma isLeast_offsetFrom_nil {since : Option Int} {offset o w : Int} :
    IsLeast {m | (∀ start ∈ since, start ≤ m) ∧ m + offsetFrom offset [] m = w} (w - o) ↔
      (∀ start ∈ since, start + offset ≤ w) ∧ offset = o := by
  constructor
  · rintro ⟨⟨hstart, hshown⟩, -⟩
    have hoffset : offset = o := by
      rw [offsetFrom] at hshown
      omega
    refine ⟨?_, hoffset⟩
    intro start hmem
    have := hstart start hmem
    omega
  · rintro ⟨hstart, rfl⟩
    refine ⟨⟨?_, Int.sub_add_cancel w offset⟩, ?_⟩
    · intro start hmem
      have := hstart start hmem
      omega
    · rintro m ⟨-, hm⟩
      rw [offsetFrom] at hm
      omega

/-- A time that clocks show before their next change is shown for the first time then. -/
lemma isLeast_offsetFrom_cons {since : Option Int} {offset change next w : Int}
    {rest : List (Int × Int)} (hstart : ∀ start ∈ since, start ≤ w - offset)
    (hlt : w - offset < change) :
    IsLeast {m | (∀ start ∈ since, start ≤ m) ∧
      m + offsetFrom offset ((change, next) :: rest) m = w} (w - offset) := by
  refine ⟨⟨hstart, ?_⟩, ?_⟩
  · rw [offsetFrom, if_pos hlt]
    omega
  · rintro m ⟨-, hm⟩
    by_cases hmc : m < change
    · rw [offsetFrom, if_pos hmc] at hm
      omega
    · omega

/-- A time that clocks do not show before their next change is shown after it, if at all. -/
lemma shown_cons_eq {since : Option Int} {offset change next w : Int} {rest : List (Int × Int)}
    (hsince : ∀ start ∈ since, start < change)
    (h : ¬ ((∀ start ∈ since, start ≤ w - offset) ∧ w - offset < change)) :
    {m | (∀ start ∈ since, start ≤ m) ∧ m + offsetFrom offset ((change, next) :: rest) m = w} =
      {m | (∀ start ∈ some change, start ≤ m) ∧ m + offsetFrom next rest m = w} := by
  ext m
  simp only [Set.mem_ofPred_eq, Option.mem_def, Option.some.injEq, forall_eq']
  by_cases hmc : m < change
  · rw [offsetFrom, if_pos hmc]
    constructor
    · rintro ⟨hstart, hm⟩
      refine absurd ⟨?_, ?_⟩ h
      · intro start hmem
        have := hstart start hmem
        omega
      · omega
    · omega
  · rw [offsetFrom, if_neg (by omega)]
    constructor
    · rintro ⟨-, hm⟩
      exact ⟨by omega, hm⟩
    · rintro ⟨hm, hshown⟩
      refine ⟨?_, hshown⟩
      intro start hmem
      have := hsince start hmem
      omega

/-- **Clocks are searched for the first second at which they show a time.** -/
theorem firstOffset?_eq_some_iff {since : Option Int} {offset o : Int}
    {changes : List (Int × Int)} (hchanges : changes.Pairwise fun a b => a.1 < b.1)
    (hsince : ∀ start ∈ since, ∀ c ∈ changes, start < c.1) :
    firstOffset? since offset changes w = some o ↔
      IsLeast {m | (∀ start ∈ since, start ≤ m) ∧ m + offsetFrom offset changes m = w}
        (w - o) := by
  induction changes generalizing since offset with
  | nil =>
    rw [isLeast_offsetFrom_nil]
    unfold firstOffset?
    cases since with
    | none => simp
    | some start => simp
  | cons c rest ih =>
    obtain ⟨change, next⟩ := c
    obtain ⟨hhead, hrest⟩ := List.pairwise_cons.1 hchanges
    rw [firstOffset?_cons]
    by_cases h : (∀ start ∈ since, start ≤ w - offset) ∧ w - offset < change
    · rw [if_pos h, Option.some.injEq]
      have hleast := @isLeast_offsetFrom_cons since offset change next w rest h.1 h.2
      constructor
      · rintro rfl
        exact hleast
      · intro h
        have := h.unique hleast
        omega
    · -- Clocks do not show the time before the change, so that the search goes on after it.
      have hbefore : ∀ start ∈ since, start < change := fun start hstart =>
        hsince start hstart (change, next) List.mem_cons_self
      rw [if_neg h, shown_cons_eq hbefore h]
      apply ih hrest
      rintro start hstart c hc
      obtain rfl := Option.some.inj hstart
      exact hhead c hc

/-- The offset that is found leads to the first second with that time. -/
lemma offsetOfWall?_eq_some_iff {w : WallTime} {o : Int} :
    r.offsetOfWall? w = some o ↔ IsLeast {m | r.shown m = w.seconds} (w.seconds - o) := by
  rw [offsetOfWall?,
    firstOffset?_eq_some_iff r.pairwise_changes (fun start h => absurd h (by simp))]
  simp only [Option.mem_def, reduceCtorEq, false_implies, implies_true, true_and]
  rfl

/-! ## Times on the wall -/

/-- Clocks that show a time show it for the first time at one second. -/
lemma ofWall?_iff {w : WallTime} {zt : ZonedTime} :
    (Zone.region r).ofWall? w = some zt ↔
      ∃ n, r.Shows w.seconds n ∧ zt = ⟨⟨n, w.nanos⟩, r.offset n⟩ := by
  rw [Zone.ofWall?]
  constructor
  · intro h
    cases ho : r.offsetOfWall? w with
    | none =>
      rw [ho] at h
      cases h
    | some o =>
      rw [ho] at h
      obtain ⟨t, ht, rfl⟩ := Option.map_eq_some_iff.1 h
      have hfirst := offsetOfWall?_eq_some_iff.1 ho
      have hoffset : r.offset (w.seconds - o) = o := by
        have hshown : w.seconds - o + r.offset (w.seconds - o) = w.seconds := hfirst.1
        omega
      rw [WallTime.instant?] at ht
      split at ht
      · rename_i hrange
        obtain rfl := Option.some.inj ht
        exact ⟨w.seconds - o, ⟨hfirst, hrange⟩, by rw [hoffset]⟩
      · cases ht
  · rintro ⟨n, hn, rfl⟩
    have hshown : n + r.offset n = w.seconds := hn.first.1
    have hback : w.seconds - r.offset n = n := by omega
    have ho : r.offsetOfWall? w = some (r.offset n) := by
      rw [offsetOfWall?_eq_some_iff, hback]
      exact hn.first
    rw [ho]
    dsimp only
    rw [WallTime.instant?, hback, if_pos hn.range, Option.map_some]

/-- **A time on the wall is taken for the second that it stands for.** -/
theorem ofWall_iff {w : WallTime} (hw : w.nanos = 0) {zt : ZonedTime} :
    (Zone.region r).ofWall w = .ok zt ↔
      ∃ n, r.StandsFor w.seconds n ∧ zt = (Zone.region r).localize ⟨n, 0⟩ := by
  obtain ⟨seconds, nanos⟩ := w
  obtain rfl : nanos = 0 := hw
  have hlocalize : ∀ n, (⟨⟨n, 0⟩, r.offset n⟩ : ZonedTime) = (Zone.region r).localize ⟨n, 0⟩ :=
    fun n => rfl
  have hnone : (Zone.region r).ofWall? ⟨seconds, 0⟩ = none ↔ ∀ m, ¬ r.Shows seconds m := by
    rw [Option.eq_none_iff_forall_ne_some]
    constructor
    · intro h m hm
      exact h _ (ofWall?_iff.2 ⟨m, hm, rfl⟩)
    · intro h zt hzt
      obtain ⟨m, hm, -⟩ := ofWall?_iff.1 hzt
      exact h m hm
  rw [Zone.ofWall]
  cases hfound : (Zone.region r).ofWall? ⟨seconds, 0⟩ with
  | some zt' =>
    obtain ⟨n, hn, rfl⟩ := ofWall?_iff.1 hfound
    dsimp only
    rw [hlocalize, Except.ok.injEq]
    constructor
    · rintro rfl
      exact ⟨n, .inl hn, rfl⟩
    · rintro ⟨m, hm, rfl⟩
      rw [StandsFor.unique (.inl hn) hm]
  | none =>
    have hskipped := hnone.1 hfound
    dsimp only
    have hnanos : 0 < nanosPerSecond := by decide
    rw [WallTime.shift?, shiftSeconds_of_lt hnanos]
    dsimp only
    by_cases hrange : inRange (seconds + 3600) = true
    · rw [if_pos hrange, Option.bind_some]
      cases hlater : (Zone.region r).ofWall? ⟨seconds + 3600, 0⟩ with
      | some zt' =>
        obtain ⟨n, hn, rfl⟩ := ofWall?_iff.1 hlater
        dsimp only at hn ⊢
        rw [hlocalize, Except.ok.injEq]
        constructor
        · rintro rfl
          exact ⟨n, .inr ⟨hskipped, hrange, hn⟩, rfl⟩
        · rintro ⟨m, hm, rfl⟩
          rw [StandsFor.unique (.inr ⟨hskipped, hrange, hn⟩) hm]
      | none =>
        refine iff_of_false (fun h => by cases h) ?_
        rintro ⟨n, hn | ⟨-, -, hn⟩, -⟩
        · exact hskipped n hn
        · have := (ofWall?_iff (w := ⟨seconds + 3600, 0⟩)).2 ⟨n, hn, rfl⟩
          rw [hlater] at this
          cases this
    · rw [if_neg hrange, Option.bind_none]
      refine iff_of_false (fun h => by cases h) ?_
      rintro ⟨n, hn | ⟨-, hrange', -⟩, -⟩
      · exact hskipped n hn
      · exact hrange hrange'

/-! ## Rounding and shifting -/

open Sift.Interval (boundary index)

variable {u : DateUnit} {t : Instant} {i : Interval}

/-- Exact units have a fixed length. -/
lemma seconds?_ne_none (hu : u.isExact = true) : u.seconds? ≠ none := by
  cases u <;> simp [DateUnit.isExact, DateUnit.seconds?] at hu ⊢

/-- Hours and what is shorter are rounded as if clocks were never changed. -/
lemma floor_of_isExact (hu : u.isExact = true) :
    u.floor ((Zone.region r).localize t) (.region r) =
      u.floor ((Zone.fixed (r.offset t.seconds)).localize t) (.fixed (r.offset t.seconds)) := by
  unfold DateUnit.floor
  simp only [hu, if_true]
  rfl

/-- **Rounding to a unit of the calendar** finds what the start of the unit stands for, on clocks
that can show the time. -/
theorem floor_iff (hu : u.isExact = false) {zt : ZonedTime} :
    u.floor ((Zone.region r).localize t) (.region r) = .ok zt ↔
      inRange (r.shown t.seconds) = true ∧
      inRange (boundary ⟨1, u⟩ (index ⟨1, u⟩ (r.shown t.seconds))) = true ∧
      ∃ n, r.StandsFor (boundary ⟨1, u⟩ (index ⟨1, u⟩ (r.shown t.seconds))) n ∧
        zt = (Zone.region r).localize ⟨n, 0⟩ := by
  have hwall : (u.wallFloor ((Zone.region r).localize t).wall).seconds =
      boundary ⟨1, u⟩ (index ⟨1, u⟩ (r.shown t.seconds)) := Interval.wallFloor_seconds u _
  have hsame : (Zone.region r).localize ((Zone.region r).localize t).instant =
      (Zone.region r).localize t := rfl
  have hshown : ((Zone.region r).localize t).wall.isValid = inRange (r.shown t.seconds) := rfl
  have hstart : (u.wallFloor ((Zone.region r).localize t).wall).isValid =
      inRange (u.wallFloor ((Zone.region r).localize t).wall).seconds := rfl
  have hnanos := u.wallFloor_nanos ((Zone.region r).localize t).wall
  unfold DateUnit.floor
  dsimp only
  rw [hsame, hu, hshown, hstart, ← hwall]
  cases inRange (r.shown t.seconds) with
  | false => simp
  | true =>
    cases inRange (u.wallFloor ((Zone.region r).localize t).wall).seconds with
    | false => simp
    | true => simp [ofWall_iff hnanos]

/-- The first day of a month is in the calendar's range exactly if any time of it is. -/
lemma isValid_first_iff_inRange {k d : Int} (hd : 0 ≤ d ∧ d < 86400) :
    Date.isValid ⟨k / 12, k % 12 + 1, 1⟩ = true ↔
      inRange (Date.firstDay k * secondsPerDay + d) = true := by
  have hmin : Date.firstDay (Date.minYear * 12) = -96465292 := by decide
  have hmax : Date.firstDay (Date.maxYear * 12 + 11 + 1) = 95026237 := by decide
  rw [Date.isValid_first_iff, inRange_iff]
  show _ ↔ -8334601228800 ≤ Date.firstDay k * 86400 + d ∧
    Date.firstDay k * 86400 + d ≤ 8210266876799
  constructor
  · rintro ⟨hfirst, hlast⟩
    have hlower := Date.firstDay_le_firstDay hfirst
    have hupper := Date.firstDay_lt_firstDay (Int.lt_add_one_iff.2 hlast)
    omega
  · rintro ⟨hlower, hupper⟩
    constructor
    · by_contra hk
      have := Date.firstDay_lt_firstDay (not_le.1 hk)
      omega
    · by_contra hk
      have := Date.firstDay_le_firstDay (Int.add_one_le_iff.2 (not_le.1 hk))
      omega

/-- On the first day of an interval of months, shifting by the interval leads to the same time of
the day on which the next interval starts. -/
lemma addMonths?_first (hs : i.unit.seconds? = none) {j d : Int} (hd : 0 ≤ d ∧ d < 86400) :
    WallTime.addMonths? ⟨i.boundary j + d, 0⟩ i.months =
      if inRange (i.boundary (j + 1) + d) = true then some ⟨i.boundary (j + 1) + d, 0⟩
      else none := by
  have hday : (Date.firstDay (j * i.months) * 86400 + d) / 86400 =
      Date.firstDay (j * i.months) := by
    omega
  have hsecond : (Date.firstDay (j * i.months) * 86400 + d) % 86400 = d := by omega
  have hdate : (WallTime.mk (i.boundary j + d) 0).date =
      ⟨j * i.months / 12, j * i.months % 12 + 1, 1⟩ := by
    rw [Interval.boundary_of_months hs, WallTime.date, WallTime.day]
    show Date.ofDayNumber ((_ * 86400 + d) / 86400) = _
    rw [hday, Date.ofDayNumber_firstDay]
  have htime : (WallTime.mk (i.boundary j + d) 0).secondOfDay = d := by
    rw [Interval.boundary_of_months hs]
    exact hsecond
  have hnext : j * i.months + i.months = (j + 1) * i.months := by ring
  unfold WallTime.addMonths?
  rw [hdate, htime, Date.addMonths_first, hnext, Interval.boundary_of_months hs (j + 1)]
  dsimp only
  by_cases hrange : inRange (Date.firstDay ((j + 1) * i.months) * secondsPerDay + d) = true
  · rw [if_pos hrange, if_pos ((isValid_first_iff_inRange hd).2 hrange)]
    rfl
  · rw [if_neg hrange, if_neg (fun h => hrange ((isValid_first_iff_inRange hd).1 h))]

/-- The unit of the calendar, the interval of which is shifted by on the wall. -/
lemma wallAdd?_eq (hu : i.unit.isExact = false) {j w : Int}
    (hw : i.unit.seconds? = none → i.boundary j ≤ w ∧ w < i.boundary j + 86400) :
    i.unit.wallAdd? ⟨w, 0⟩ i.count.toInt =
      if inRange (i.boundary (j + 1) + (w - i.boundary j)) = true then
        some ⟨i.boundary (j + 1) + (w - i.boundary j), 0⟩
      else none := by
  have hnanos : 0 < nanosPerSecond := by decide
  cases hs : i.unit.seconds? with
  | some length =>
    have hadd : i.unit.wallAdd? ⟨w, 0⟩ i.count.toInt =
        WallTime.shift? ⟨w, 0⟩ (i.count.toInt * length) := by
      revert hu hs
      cases i.unit <;>
        simp [DateUnit.seconds?, DateUnit.isExact, DateUnit.wallAdd?, secondsPerDay] <;>
        rintro rfl <;> rfl
    have hnext : i.boundary (j + 1) + (w - i.boundary j) = w + i.count.toInt * length := by
      rw [boundary, boundary, hs]
      dsimp only
      rw [Int.add_mul, Int.one_mul]
      omega
    rw [hadd, hnext, WallTime.shift?, shiftSeconds_of_lt hnanos]
  | none =>
    have hadd : i.unit.wallAdd? ⟨w, 0⟩ i.count.toInt = WallTime.addMonths? ⟨w, 0⟩ i.months := by
      unfold Interval.months
      revert hs
      cases i.unit <;> simp [DateUnit.seconds?, DateUnit.wallAdd?]
    obtain ⟨hle, hlt⟩ := hw hs
    have hd : 0 ≤ w - i.boundary j ∧ w - i.boundary j < 86400 := by omega
    have hback : i.boundary j + (w - i.boundary j) = w := by omega
    have hfirst := addMonths?_first hs (j := j) hd
    rw [hback] at hfirst
    rw [hadd, hfirst]

/-- **Shifting by an interval of the calendar** keeps the distance on the wall from the start of the
interval. -/
theorem add_iff (hu : i.unit.isExact = false) {j s : Int}
    (hs : i.unit.seconds? = none → i.boundary j ≤ r.shown s ∧ r.shown s < i.boundary j + 86400)
    {stop : ZonedTime} :
    i.unit.add ((Zone.region r).localize ⟨s, 0⟩) i.count.toInt (.region r) = .ok stop ↔
      inRange (r.shown s) = true ∧
      inRange (i.boundary (j + 1) + (r.shown s - i.boundary j)) = true ∧
      ∃ e, r.StandsFor (i.boundary (j + 1) + (r.shown s - i.boundary j)) e ∧
        stop = (Zone.region r).localize ⟨e, 0⟩ := by
  have hwall : ((Zone.region r).localize ((Zone.region r).localize ⟨s, 0⟩).instant).wall =
      ⟨r.shown s, 0⟩ := rfl
  unfold DateUnit.add
  rw [hu, if_neg Bool.false_ne_true]
  dsimp only
  rw [hwall, wallAdd?_eq hu hs]
  by_cases hshown : inRange (r.shown s) = true
  · have hvalid : (WallTime.mk (r.shown s) 0).isValid = true := hshown
    rw [if_neg (by simp [hvalid]), and_iff_right hshown]
    by_cases hrange : inRange (i.boundary (j + 1) + (r.shown s - i.boundary j)) = true
    · rw [if_pos hrange, and_iff_right hrange]
      exact ofWall_iff rfl
    · rw [if_neg hrange]
      exact iff_of_false nofun fun h => hrange h.1
  · have hvalid : ¬ (WallTime.mk (r.shown s) 0).isValid = true := hshown
    rw [if_pos (by simpa using hvalid)]
    exact iff_of_false nofun fun h => hshown h.1

/-! ## Starts of intervals -/

/-- **Spans of time** start as if clocks always had the distance from UTC that they have at the
instant. -/
theorem bucketStart_of_isSpan (hi : i.IsSpan) : i.bucketStart t (.region r) =
    i.bucketStart t (.fixed (r.offset t.seconds)) := by
  unfold Interval.bucketStart
  by_cases hone : i.count = 1
  · rw [if_pos hone, if_pos hone, floor_of_isExact (hi.resolve_right fun h => h.1 hone)]
  · rw [if_neg hone, if_neg hone]
    cases hs : i.unit.seconds? with
    | some length => rfl
    | none =>
      rcases hi with hexact | ⟨-, hsome⟩
      · exact absurd hs (seconds?_ne_none hexact)
      · exact absurd hs hsome

/-- The time and the start of the interval are in range on the wall, and so are, for several months,
the start of the month and what it stands for, to which rounding goes on the way. -/
structure Opens (r : Region) (i : Interval) (n : Int) : Prop where
  /-- The time. -/
  shown : inRange (r.shown n) = true
  /-- The start of the interval. -/
  start : inRange (i.boundary (i.index (r.shown n))) = true
  /-- The start of the month. -/
  month : i.count ≠ 1 → inRange (boundary ⟨1, .month⟩ (index ⟨1, .month⟩ (r.shown n))) = true ∧
    ∃ m, r.StandsFor (boundary ⟨1, .month⟩ (index ⟨1, .month⟩ (r.shown n))) m

/-- The boundaries of single months are their first days. -/
lemma boundary_month (j : Int) : boundary ⟨1, .month⟩ j = Date.firstDay j * secondsPerDay := by
  show Date.firstDay (j * 1) * secondsPerDay = _
  rw [Int.mul_one]

/-- What the start of a month stands for is in the month. -/
lemma monthIndex_of_standsFor {k : Int} (h : r.StandsFor (boundary ⟨1, .month⟩ k) n) :
    ((Zone.region r).localize ⟨n, 0⟩).wall.date.monthIndex = k := by
  have hshown := h.shown_eq
  rw [boundary_month] at hshown
  have hday : r.shown n / 86400 = Date.firstDay k := by
    rcases hshown with hshown | hshown
    · rw [hshown]
      show _ * 86400 / 86400 = _
      omega
    · rw [hshown]
      show (_ * 86400 + 3600) / 86400 = _
      omega
  show (Date.ofDayNumber (r.shown n / 86400)).monthIndex = k
  rw [hday, Date.ofDayNumber_firstDay]
  show k / 12 * 12 + (k % 12 + 1 - 1) = k
  omega

/-- The start of an interval of several months is what its start on the wall stands for, if the
month of the time can be rounded to. -/
lemma monthStart_iff (hcount : 0 < i.count.toInt) (hlt : i.months < 2 ^ 63)
    (hs : i.unit.seconds? = none) {zt : ZonedTime} :
    i.monthStart ((Zone.region r).localize t) (.region r) = .ok zt ↔
      (∃ f, DateUnit.month.floor ((Zone.region r).localize t) (.region r) = .ok f) ∧
      inRange (i.boundary (i.index (r.shown t.seconds))) = true ∧
      ∃ n, r.StandsFor (i.boundary (i.index (r.shown t.seconds))) n ∧
        zt = (Zone.region r).localize ⟨n, 0⟩ := by
  rw [Interval.monthStart_eq hcount hlt]
  cases hfloor : DateUnit.month.floor ((Zone.region r).localize t) (.region r) with
  | error e => simp
  | ok f =>
    have hindex : i.index (r.shown t.seconds) =
        index ⟨1, .month⟩ (r.shown t.seconds) / i.months := by
      have hmonth : index ⟨1, .month⟩ (r.shown t.seconds) =
          (Date.ofDayNumber (r.shown t.seconds / secondsPerDay)).monthIndex := Int.ediv_one _
      rw [hmonth, index, hs]
    obtain ⟨-, -, m, hm, rfl⟩ := (floor_iff rfl).1 hfloor
    have haligned : ((Zone.region r).localize ⟨m, 0⟩).wall.date.monthIndex -
        ((Zone.region r).localize ⟨m, 0⟩).wall.date.monthIndex % i.months =
        i.index (r.shown t.seconds) * i.months := by
      rw [monthIndex_of_standsFor hm, hindex, Int.mul_comm, sub_eq_iff_eq_add']
      exact (Int.emod_add_mul_ediv _ _).symm
    have hfirst : Date.isValid ⟨i.index (r.shown t.seconds) * i.months / 12,
        i.index (r.shown t.seconds) * i.months % 12 + 1, 1⟩ = true ↔
        inRange (i.boundary (i.index (r.shown t.seconds))) = true := by
      rw [isValid_first_iff_inRange (d := 0) (by decide), Interval.boundary_of_months hs,
        Int.add_zero]
    have hwall : (WallTime.ofDate ⟨i.index (r.shown t.seconds) * i.months / 12,
        i.index (r.shown t.seconds) * i.months % 12 + 1, 1⟩).seconds =
        i.boundary (i.index (r.shown t.seconds)) := (Interval.boundary_of_months hs _).symm
    dsimp only
    rw [haligned, Interval.ofMonthIndex_eq_ok_iff, hfirst, ofWall_iff (w := .ofDate _) rfl, hwall]
    simp

/-- **Intervals of the calendar** start at what their start on the wall stands for. -/
theorem bucketStart_iff (hcount : 0 < i.count.toInt) (hfits : i.Fits) (hi : ¬ i.IsSpan)
    {s : Instant} :
    i.bucketStart t (.region r) = .ok s ↔ r.Opens i t.seconds ∧
      ∃ n, r.StandsFor (i.boundary (i.index (r.shown t.seconds))) n ∧ s = ⟨n, 0⟩ := by
  obtain ⟨hexact, hspan⟩ := not_or.1 hi
  by_cases hone : i.count = 1
  · obtain ⟨count, unit⟩ := i
    obtain rfl : count = 1 := hone
    unfold Interval.bucketStart
    rw [if_pos rfl, Interval.map_instant_eq_ok_iff]
    simp only [floor_iff (Bool.not_eq_true _ ▸ hexact)]
    constructor
    · rintro ⟨zt, ⟨hshown, hrange, n, hn, rfl⟩, rfl⟩
      exact ⟨⟨hshown, hrange, fun h => absurd rfl h⟩, n, hn, rfl⟩
    · rintro ⟨hopens, n, hn, rfl⟩
      exact ⟨_, ⟨hopens.shown, hopens.start, n, hn, rfl⟩, rfl⟩
  · have hs : i.unit.seconds? = none := by
      by_contra hsome
      exact hspan ⟨hone, hsome⟩
    have hlt := hfits.months hs
    rw [Interval.bucketStart_of_months hone hs, Interval.map_instant_eq_ok_iff]
    simp only [monthStart_iff hcount (by omega : i.months < 2 ^ 63) hs,
      floor_iff (u := .month) rfl]
    constructor
    · rintro ⟨zt, ⟨⟨f, hshown, hmonth, m, hm, -⟩, hstart, n, hn, rfl⟩, rfl⟩
      exact ⟨⟨hshown, hstart, fun _ => ⟨hmonth, m, hm⟩⟩, n, hn, rfl⟩
    · rintro ⟨hopens, n, hn, rfl⟩
      obtain ⟨hmonth, m, hm⟩ := hopens.month hone
      exact ⟨_, ⟨⟨_, hopens.shown, hmonth, m, hm, rfl⟩, hopens.start, n, hn, rfl⟩, rfl⟩

end Region

end Sift
