import Mathlib.Algebra.Group.Int.Defs
import Sift.Proofs.CalendarMonths
import Sift.Proofs.IntervalStarts

/-!
# Starts of intervals in 64 bits

The start of an interval is computed in 64 bits, where the amount of the interval may be any
positive number of 64 bits. An operation without a result breaks the computation off. This happens
only where the length of the interval is out of range itself, or where a time before 1970 lies in an
interval that begins almost as early as 64 bits can tell. In all other cases the operations give
what they give on integers without bounds.

## Main definitions

* `Sift.Interval.fixedStart`: the start of an interval of fixed length, without bounds.
* `Sift.Interval.LengthOverflows`: the length is out of range.
* `Sift.Interval.StartOverflows`: the length is in range, but the start is not.

## Main results

* `Sift.Interval.startMillis?_eq`: where operations on milliseconds have results.
* `Sift.Interval.firstMonth?_eq`: operations on months have results.
* `Sift.Interval.bucketStart_of_seconds`, `Sift.Interval.monthStart_eq`: the start of an interval
  whose length is in range.
* `Sift.Interval.bucketStart_of_lengthOverflows`: no interval whose length is out of range has one.
-/

set_option autoImplicit false

namespace Sift

namespace Interval

/-- The number of months of an interval of months or years. -/
def months (i : Interval) : Int :=
  if i.unit = .year then i.count.toInt * 12 else i.count.toInt

/-- The start of the interval of some milliseconds, from the length of the interval, the alignment,
and the milliseconds by which clocks are ahead. -/
def fixedStart (length alignment ahead millis : Int) : Int :=
  let aligned := millis + ahead + alignment
  aligned - aligned % length - alignment - ahead

/-- The length of the interval is out of range. -/
def LengthOverflows (i : Interval) : Prop :=
  i.count ≠ 1 ∧
    match i.unit.seconds? with
    | some seconds => 2 ^ 63 ≤ i.exactMillis seconds
    | none => 2 ^ 63 ≤ i.months

/-- The length of the interval is in range, but a time on clocks that are so many seconds ahead lies
before the year 1970 in an interval that starts out of range. -/
def StartOverflows (i : Interval) (offset millis : Int) : Prop :=
  i.count ≠ 1 ∧ ∃ seconds, i.unit.seconds? = some seconds ∧ i.exactMillis seconds < 2 ^ 63 ∧
    millis + offset * 1000 + alignment i.unit < 0 ∧
    2 ^ 63 < i.exactMillis seconds + alignment i.unit + max 0 (offset * 1000)

variable {i : Interval} {seconds offset millis : Int}

/-- Intervals have at least one unit. -/
lemma count_pos_of_parse {text : String} (h : parse text = .ok i) :
    0 < i.count.toInt := by
  unfold parse at h
  dsimp only at h
  split at h
  · rename_i hlookup
    obtain rfl := Except.ok.inj h
    obtain ⟨before, after, hnamed, -⟩ := List.lookup_eq_some_iff.1 hlookup
    have hall : ∀ e ∈ named, 0 < e.2.count.toInt := by decide
    exact hall (Text.trim text, _) (hnamed ▸ List.mem_append_right _ List.mem_cons_self)
  · split at h
    · rename_i hsymbol
      obtain rfl := Except.ok.inj h
      unfold ofSymbol? at hsymbol
      split at hsymbol
      · cases hsymbol
      · split at hsymbol
        · cases hsymbol
        · split at hsymbol
          · obtain rfl := Option.some.inj hsymbol
            exact Int.one_pos
          · split at hsymbol
            · split at hsymbol
              · rename_i hpos
                obtain rfl := Option.some.inj hsymbol
                exact Int64.lt_iff_toInt_lt.1 hpos
              · cases hsymbol
            · cases hsymbol
    · cases h

/-- An interval of months has at least one of them. -/
lemma months_pos (hcount : 0 < i.count.toInt) : 0 < i.months := by
  unfold months
  split <;> omega

/-- Units of fixed length have at least a second. -/
lemma seconds?_pos {u : DateUnit} {s : Int} (hs : u.seconds? = some s) : 0 < s := by
  cases u <;> simp only [DateUnit.seconds?, Option.some.injEq, reduceCtorEq] at hs <;> omega

/-- An interval of units of fixed length is not empty. -/
lemma exactMillis_pos (hcount : 0 < i.count.toInt) (hs : i.unit.seconds? = some seconds) :
    0 < i.exactMillis seconds :=
  Int.mul_pos (Int.mul_pos (seconds?_pos hs) (by decide)) hcount

/-- Intervals are moved by less than a week. -/
lemma alignment_bounds (u : DateUnit) : 0 ≤ alignment u ∧ alignment u ≤ 259200000 := by
  unfold alignment
  split <;> omega

/-! ## Operations in 64 bits -/

/-- A number in range has a place. -/
lemma word?_of_le {n : Int} (hlow : -2 ^ 63 ≤ n) (hhigh : n < 2 ^ 63) : word? n = some n := by
  have hmin : Int64.minValue.toInt = -2 ^ 63 := by decide
  have hmax : Int64.maxValue.toInt = 2 ^ 63 - 1 := by decide
  exact if_pos ⟨by omega, by omega⟩

/-- A number below the range has none. -/
lemma word?_of_lt {n : Int} (h : n < -2 ^ 63) : word? n = none := by
  have hmin : Int64.minValue.toInt = -2 ^ 63 := by decide
  exact if_neg fun hrange => by omega

/-- A number above the range has none. -/
lemma word?_of_ge {n : Int} (h : 2 ^ 63 ≤ n) : word? n = none := by
  have hmax : Int64.maxValue.toInt = 2 ^ 63 - 1 := by decide
  exact if_neg fun hrange => by omega

/-- The remainder for a positive divisor has a place. -/
lemma remainder?_of_pos {n d : Int} (h : 0 < d) (hd : d < 2 ^ 63) :
    remainder? n d = some (n % d) := by
  have hnonneg := Int.emod_nonneg n h.ne'
  have hlt := Int.emod_lt_of_pos n h
  rw [remainder?, if_neg h.ne', word?_of_le (by omega) (by omega)]

/-! ## Milliseconds -/

/-- The remainder of a number that is not negative is not above it. -/
lemma emod_le_self {n : Int} (h : 0 ≤ n) (d : Int) : n % d ≤ n := by
  obtain ⟨k, rfl⟩ := Int.eq_ofNat_of_zero_le h
  have hnat : ∀ m : Nat, (k : Int) % (m : Int) ≤ k := fun m => by
    rw [← Int.natCast_emod]
    exact Int.ofNat_le.2 (Nat.mod_le k m)
  rcases Int.natAbs_eq d with hd | hd
  · rw [hd]
    exact hnat _
  · rw [hd, Int.emod_neg]
    exact hnat _

/-- The greatest multiple up to a number is 0 or more, or the first one below 0, or less than twice
as far from 0 as the number. -/
lemma sub_emod_cases {n d : Int} (hd : 0 < d) :
    (0 ≤ n ∧ 0 ≤ n - n % d ∧ n - n % d ≤ n) ∨ (n < 0 ∧ -n ≤ d ∧ n - n % d = -d) ∨
      (n < 0 ∧ d < -n ∧ n + n < n - n % d ∧ n - n % d ≤ n) := by
  have hnonneg := Int.emod_nonneg n hd.ne'
  have hlt := Int.emod_lt_of_pos n hd
  rcases Int.lt_or_le n 0 with hn | hn
  · by_cases hfirst : -n ≤ d
    · have hrest : n % d = n + d := by
        rw [← Int.add_emod_right, Int.emod_eq_of_lt (by omega) (by omega)]
      exact .inr (.inl ⟨hn, hfirst, by omega⟩)
    · exact .inr (.inr ⟨hn, by omega, by omega, by omega⟩)
  · have hle := emod_le_self hn d
    exact .inl ⟨hn, by omega, by omega⟩

/-- If all operations on milliseconds have results, then the last one is what it is without
bounds. -/
lemma eq_of_startMillis? {start : Int} (h : i.startMillis? seconds offset millis = some start) :
    start = fixedStart (i.exactMillis seconds) (alignment i.unit) (offset * 1000) millis := by
  unfold startMillis? at h
  simp only [Option.bind_eq_bind, Option.bind_eq_some_iff] at h
  obtain ⟨length, hlength, ahead, hahead, wall, hwall, aligned, haligned, rest, hrest, first,
    hfirst, shifted, hshifted, hstart⟩ := h
  obtain rfl := eq_of_word? hlength
  obtain rfl := eq_of_word? hahead
  obtain rfl := eq_of_word? hwall
  obtain rfl := eq_of_word? haligned
  obtain rfl := eq_of_remainder? hrest
  obtain rfl := eq_of_word? hfirst
  obtain rfl := eq_of_word? hshifted
  exact eq_of_word? hstart

/-- **Operations on milliseconds.** If the length is in range, then all operations have results,
unless the time lies before 1970 and the start is out of range.

**Proof sketch.** After 1970 the start lies between 1970 and the time. Before 1970 the start of an
interval that reaches until 1970 is its length before 1970, and that of a shorter one is near to the
time. -/
theorem startMillis?_eq (hlength : 0 < i.exactMillis seconds)
    (hlt : i.exactMillis seconds < 2 ^ 63) (hoffset : -86400 < offset ∧ offset < 86400)
    (hmillis : -2 ^ 53 < millis ∧ millis < 2 ^ 53) :
    i.startMillis? seconds offset millis =
      if millis + offset * 1000 + alignment i.unit < 0 ∧
          2 ^ 63 < i.exactMillis seconds + alignment i.unit + max 0 (offset * 1000) then none
      else some (fixedStart (i.exactMillis seconds) (alignment i.unit) (offset * 1000) millis) := by
  obtain ⟨halign0, halign1⟩ := alignment_bounds i.unit
  unfold startMillis? fixedStart
  generalize alignment i.unit = a at *
  generalize i.exactMillis seconds = length at *
  have hwall := word?_of_le (n := millis + offset * 1000) (by omega) (by omega)
  have haligned := word?_of_le (n := millis + offset * 1000 + a) (by omega) (by omega)
  simp only [word?_of_le (n := length) (by omega) hlt, hwall, haligned,
    word?_of_le (n := offset * 1000) (by omega) (by omega), remainder?_of_pos hlength hlt,
    Option.bind_eq_bind, Option.bind_some]
  rcases sub_emod_cases (n := millis + offset * 1000 + a) hlength with
    ⟨hn, hlow, hhigh⟩ | ⟨hn, hfirst, hstart⟩ | ⟨hn, hshort, hlow, hhigh⟩
  · rw [if_neg (by omega), word?_of_le (by omega) (by omega), Option.bind_some,
      word?_of_le (by omega) (by omega), Option.bind_some, word?_of_le (by omega) (by omega)]
  · rw [hstart, word?_of_le (by omega) (by omega), Option.bind_some]
    by_cases hearly : 2 ^ 63 < length + a + max 0 (offset * 1000)
    · rw [if_pos ⟨hn, hearly⟩]
      by_cases hshifted : 2 ^ 63 < length + a
      · rw [word?_of_lt (by omega), Option.bind_none]
      · rw [word?_of_le (by omega) (by omega), Option.bind_some, word?_of_lt (by omega)]
    · rw [if_neg fun h => hearly h.2, word?_of_le (by omega) (by omega), Option.bind_some,
        word?_of_le (by omega) (by omega)]
  · rw [if_neg (by omega), word?_of_le (by omega) (by omega), Option.bind_some,
      word?_of_le (by omega) (by omega), Option.bind_some, word?_of_le (by omega) (by omega)]

/-! ## Months -/

/-- The date of a time of the calendar has a year of the calendar. -/
lemma year_of_inRange {w : WallTime} (h : inRange w.seconds = true) :
    Date.minYear ≤ w.date.year ∧ w.date.year ≤ Date.maxYear := by
  obtain ⟨hlow, hhigh⟩ := inRange_iff.1 h
  have hmonth := Date.month_ofDayNumber w.day
  have hfirst : Date.firstDay (Date.minYear * 12) = -96465292 := by decide
  have hlast : Date.firstDay (Date.maxYear * 12 + 12) = 95026237 := by decide
  have hmin := (Date.le_monthIndex_iff (Date.minYear * 12) w.day).2 (by
    rw [hfirst, WallTime.day]
    unfold minSeconds at hlow
    unfold secondsPerDay
    omega)
  have hmax := mt (Date.le_monthIndex_iff (Date.maxYear * 12 + 12) w.day).1 (by
    rw [hlast, WallTime.day]
    unfold maxSeconds at hhigh
    unfold secondsPerDay
    omega)
  unfold WallTime.date
  unfold Date.monthIndex at hmin hmax
  omega

/-- Times that clocks show are times of the calendar. -/
lemma inRange_wall_of_ofWall {z : Zone} {w : WallTime} {t : ZonedTime}
    (hw : inRange w.seconds = true) (h : z.ofWall w = .ok t) : inRange t.wall.seconds = true := by
  have hshown : ∀ {w : WallTime}, inRange w.seconds = true → z.ofWall? w = some t →
      inRange t.wall.seconds = true := by
    intro w hw h
    have hinstant : ∀ offset, (w.instant? offset).map (fun i => ZonedTime.mk i offset) = some t →
        inRange t.wall.seconds = true := by
      intro offset h
      obtain ⟨u, hu, rfl⟩ := Option.map_eq_some_iff.1 h
      unfold WallTime.instant? at hu
      split at hu
      · obtain rfl := Option.some.inj hu
        show inRange (w.seconds - offset + offset) = true
        rwa [Int.sub_add_cancel]
      · cases hu
    cases z with
    | fixed offset => exact hinstant offset h
    | region r =>
      rw [Zone.ofWall?] at h
      split at h
      · cases h
      · exact hinstant _ h
  unfold Zone.ofWall at h
  split at h
  · rename_i hfound
    obtain rfl := Except.ok.inj h
    exact hshown hw hfound
  · cases z with
    | fixed _ => cases h
    | region r =>
      dsimp only at h
      split at h
      · rename_i hfound
        obtain rfl := Except.ok.inj h
        obtain ⟨later, hlater, hfound⟩ := Option.bind_eq_some_iff.1 hfound
        unfold WallTime.shift? at hlater
        dsimp only at hlater
        split at hlater
        · rename_i hrange
          obtain rfl := Option.some.inj hlater
          exact hshown hrange hfound
        · cases hlater
      · cases h

/-- A time that is rounded to the month is a time of the calendar. -/
lemma inRange_wall_of_floor {z : Zone} {t f : ZonedTime}
    (h : DateUnit.month.floor t z = .ok f) : inRange f.wall.seconds = true := by
  unfold DateUnit.floor at h
  dsimp only at h
  split at h
  · cases h
  · split at h
    · cases h
    · rename_i hvalid
      exact inRange_wall_of_ofWall (by simpa [WallTime.isValid] using hvalid) h

/-- **Operations on months** have results if the length is in range. -/
theorem firstMonth?_eq {months : Int} (hpos : 0 < months) (hlt : months < 2 ^ 63) {w : WallTime}
    (hw : inRange w.seconds = true) : firstMonth? months w.date =
      some (w.date.monthIndex - w.date.monthIndex % months) := by
  have hyear := year_of_inRange hw
  have hmonth := Date.month_ofDayNumber w.day
  have hnonneg := Int.emod_nonneg w.date.monthIndex hpos.ne'
  have hrest := Int.emod_lt_of_pos w.date.monthIndex hpos
  have hindex : w.date.year * 12 + (w.date.month - 1) = w.date.monthIndex := rfl
  have hbounds : -2 ^ 24 ≤ w.date.monthIndex ∧ w.date.monthIndex ≤ 2 ^ 24 := by
    unfold Date.minYear Date.maxYear at hyear
    unfold WallTime.date at hyear hindex ⊢
    omega
  unfold Date.minYear Date.maxYear at hyear
  unfold firstMonth?
  simp only [word?_of_le (n := w.date.year * 12) (by omega) (by omega), Option.bind_eq_bind,
    Option.bind_some, hindex, word?_of_le (n := w.date.monthIndex) (by omega) (by omega),
    remainder?_of_pos hpos hlt]
  rcases sub_emod_cases (n := w.date.monthIndex) hpos with
    ⟨-, hlow, hhigh⟩ | ⟨-, -, hstart⟩ | ⟨-, -, hlow, hhigh⟩
  · exact word?_of_le (by omega) (by omega)
  · exact word?_of_le (by omega) (by omega)
  · exact word?_of_le (by omega) (by omega)

/-- The length in months has a place if it is in range. -/
lemma lengthMonths?_eq (hcount : 0 < i.count.toInt) :
    i.lengthMonths? = if i.months < 2 ^ 63 then some i.months else none := by
  have hword := Int64.toInt_lt i.count
  unfold lengthMonths? months
  by_cases hyear : i.unit = .year
  · rw [if_pos hyear, if_pos hyear]
    by_cases hlt : i.count.toInt * 12 < 2 ^ 63
    · rw [if_pos hlt, word?_of_le (by omega) hlt]
    · rw [if_neg hlt, word?_of_ge (Int.not_lt.1 hlt)]
  · rw [if_neg hyear, if_neg hyear, if_pos (by omega)]

/-- An interval of months that has a start has a length in range. -/
lemma months_lt_of_monthStart (hcount : 0 < i.count.toInt) {x s : ZonedTime} {z : Zone}
    (h : i.monthStart x z = .ok s) : i.months < 2 ^ 63 := by
  obtain ⟨months, -, -, hmonths, -⟩ := monthStart_eq_ok_iff.1 h
  rw [lengthMonths?_eq hcount] at hmonths
  split at hmonths
  · assumption
  · cases hmonths

/-- The start of an interval of months whose length is in range. -/
theorem monthStart_eq (hcount : 0 < i.count.toInt) (hlt : i.months < 2 ^ 63) (x : ZonedTime)
    (z : Zone) : i.monthStart x z =
      match DateUnit.month.floor x z with
      | .error e => .error e
      | .ok f => ofMonthIndex (f.wall.date.monthIndex - f.wall.date.monthIndex % i.months) z := by
  unfold monthStart
  rw [lengthMonths?_eq hcount, if_pos hlt]
  dsimp only
  cases hfloor : DateUnit.month.floor x z with
  | error e => rfl
  | ok f =>
    dsimp only
    rw [firstMonth?_eq (months_pos hcount) hlt (inRange_wall_of_floor hfloor)]

/-! ## Starts -/

variable {t : Instant} {z : Zone}

/-- The milliseconds of an instant in range are far from the ends of 64 bits. -/
lemma millis_bounds (hrange : inRange t.seconds = true) (ht : t.nanos < 2 * nanosPerSecond) :
    -2 ^ 53 < t.millis ∧ t.millis < 2 ^ 53 := by
  replace hrange := inRange_iff.1 hrange
  unfold minSeconds maxSeconds at hrange
  unfold nanosPerSecond at ht
  unfold Instant.millis
  omega

/-- **The start of several units of fixed length**, where the length is in range. -/
theorem bucketStart_of_seconds (hcount : 0 < i.count.toInt) (hone : i.count ≠ 1)
    (hs : i.unit.seconds? = some seconds) (hlt : i.exactMillis seconds < 2 ^ 63)
    (hmillis : -2 ^ 53 < t.millis ∧ t.millis < 2 ^ 53)
    (hz : -86400 < z.offsetAt t ∧ z.offsetAt t < 86400) :
    (i.StartOverflows (z.offsetAt t) t.millis ∧ i.bucketStart t z = .error .crash) ∨
      (¬ i.StartOverflows (z.offsetAt t) t.millis ∧ i.bucketStart t z =
        match Instant.ofMillis? (fixedStart (i.exactMillis seconds) (alignment i.unit)
          (z.offsetAt t * 1000) t.millis) with
        | some s => .ok s
        | none => .error (.bucketOutOfRange t)) := by
  unfold bucketStart
  rw [if_neg hone, hs]
  dsimp only
  rw [startMillis?_eq (exactMillis_pos hcount hs) hlt hz hmillis]
  by_cases hstart : i.StartOverflows (z.offsetAt t) t.millis
  · obtain ⟨-, seconds', hs', -, hbefore, hearly⟩ := id hstart
    obtain rfl : seconds' = seconds := Option.some.inj (hs'.symm.trans hs)
    rw [if_pos ⟨hbefore, hearly⟩]
    exact .inl ⟨hstart, rfl⟩
  · rw [if_neg fun h => hstart ⟨hone, seconds, hs, hlt, h⟩]
    exact .inr ⟨hstart, rfl⟩

/-- The start of several months or years. -/
lemma bucketStart_of_months (hone : i.count ≠ 1) (hs : i.unit.seconds? = none) :
    i.bucketStart t z = (i.monthStart (z.localize t) z).map ZonedTime.instant := by
  unfold bucketStart
  rw [if_neg hone, hs]

/-- A length that is out of range breaks the computation off at its first step. -/
theorem bucketStart_of_lengthOverflows (hcount : 0 < i.count.toInt) (h : i.LengthOverflows) :
    i.bucketStart t z = .error .crash := by
  obtain ⟨hone, hlength⟩ := h
  unfold bucketStart
  rw [if_neg hone]
  cases hs : i.unit.seconds? with
  | some seconds =>
    rw [hs] at hlength
    simp only [startMillis?, word?_of_ge hlength, Option.bind_eq_bind, Option.bind_none]
  | none =>
    rw [hs] at hlength
    dsimp only
    rw [monthStart, lengthMonths?_eq hcount, if_neg (Int.not_lt.2 hlength)]
    rfl

/-- The start of the month with an index is what the first day of the month stands for. -/
lemma ofMonthIndex_eq_ok_iff {index : Int} {s : ZonedTime} : ofMonthIndex index z = .ok s ↔
    Date.isValid ⟨index / 12, index % 12 + 1, 1⟩ = true ∧
      z.ofWall (.ofDate ⟨index / 12, index % 12 + 1, 1⟩) = .ok s := by
  unfold ofMonthIndex
  dsimp only
  have hyear : Date.isValid ⟨index / 12, index % 12 + 1, 1⟩ = true →
      ¬ (index / 12 < Int32.minValue.toInt ∨ Int32.maxValue.toInt < index / 12) := by
    have hmin : Int32.minValue.toInt ≤ Date.minYear := by decide
    have hmax : Date.maxYear ≤ Int32.maxValue.toInt := by decide
    unfold Date.isValid
    simp only [Bool.and_eq_true, decide_eq_true_eq]
    omega
  by_cases hvalid : Date.isValid ⟨index / 12, index % 12 + 1, 1⟩ = true
  · rw [if_neg (hyear hvalid), if_pos hvalid, and_iff_right hvalid]
  · rw [if_neg hvalid]
    refine iff_of_false (fun h => ?_) fun h => hvalid h.1
    split at h <;> cases h

end Interval

end Sift
