import Mathlib.Order.Monotone.Basic
import Mathlib.Tactic.ByContra
import Mathlib.Tactic.Lemma
import Sift.Time.Calendar

/-!
# Months of the calendar

The months follow each other without a gap, so that every day lies in exactly one of them, between
its first day and the first day of the next month. This is what the two ways of naming a day say
together: the date of a day has the month that the day lies in.

A cycle of four hundred years is a whole number of days. Within it, the days are spread over years
of the length of a common year by leaving out one day for every leap year that has ended.

## Main definitions

* `Sift.Date.firstDay`: the first day of the month with an index.
* `Sift.Date.spread`: a day of a cycle without the leap days before it.

## Main results

* `Sift.Date.year_of_spread`: the year of a day within its cycle.
* `Sift.Date.le_monthIndex_iff`: the month of a day is the last one that starts until then.
* `Sift.Date.ofDayNumber_firstDay`: the date of the first day of a month.
-/

set_option autoImplicit false

namespace Sift.Date

/-- The first day of the month with an index, counted from the first month of year 0. -/
def firstDay (index : Int) : Int := dayNumber ⟨index / 12, index % 12 + 1, 1⟩

/-! ## Years of a cycle -/

/-- The number of a day of a cycle without the leap days before it. -/
def spread (day : Int) : Int := day - day / 1460 + day / 36524 - day / 146096

/-- Later months begin later in a year of equal months. -/
lemma spread_mono {a b : Int} (hab : a ≤ b) : spread a ≤ spread b := by
  unfold spread
  omega

/-- Without leap days, a year starts after as many common years. -/
lemma spread_first {y : Int} (h0 : 0 ≤ y) (h1 : y < 400) :
    spread (daysBeforeYear y) = 365 * y := by
  have hfours : daysBeforeYear y / 1460 = y / 4 := by
    unfold daysBeforeYear
    omega
  have hcenturies : daysBeforeYear y / 36524 = y / 100 := by
    unfold daysBeforeYear
    omega
  have hcycles : daysBeforeYear y / 146096 = 0 := by
    unfold daysBeforeYear
    omega
  rw [spread, hfours, hcenturies, hcycles]
  unfold daysBeforeYear
  omega

/-- Without leap days, the last day before a year belongs to the common year before. -/
lemma spread_last {y : Int} (h0 : 0 < y) (h1 : y ≤ 400) :
    spread (daysBeforeYear y - 1) < 365 * y := by
  have hfours : (daysBeforeYear y - 1) / 1460 = y / 4 := by
    unfold daysBeforeYear
    omega
  have hcenturies : (daysBeforeYear y - 1) / 36524 ≤ y / 100 := by
    unfold daysBeforeYear
    omega
  have hcycles : (daysBeforeYear y - 1) / 146096 = y / 400 := by
    unfold daysBeforeYear
    omega
  rw [spread, hfours, hcycles]
  unfold daysBeforeYear at hcenturies ⊢
  omega

/-- **The year of a day within its cycle.** The common year that a day without leap days lies in is
the year of the day.

**Proof sketch.** Leaving out leap days keeps the order of days, and it sends the first and the last
day of every year to the common year of the same number. -/
theorem year_of_spread {day : Int} (h0 : 0 ≤ day) (h1 : day < 146097) :
    (0 ≤ spread day / 365 ∧ spread day / 365 < 400) ∧
      daysBeforeYear (spread day / 365) ≤ day ∧ day < daysBeforeYear (spread day / 365 + 1) := by
  have hbounds : 0 ≤ spread day / 365 ∧ spread day / 365 < 400 := by
    unfold spread
    omega
  generalize hy : spread day / 365 = y at hbounds ⊢
  have hcommon : 365 * y ≤ spread day ∧ spread day < 365 * (y + 1) := by omega
  refine ⟨hbounds, Int.not_lt.1 fun hearly => ?_, Int.not_le.1 fun hlate => ?_⟩
  · have hmono : spread day ≤ spread (daysBeforeYear y - 1) := spread_mono (by omega)
    rcases Int.lt_or_eq_of_le hbounds.1 with hpos | rfl
    · have hlast := spread_last hpos (by omega)
      omega
    · exact absurd hearly (Int.not_lt.2 h0)
  · have hmono : spread (daysBeforeYear (y + 1)) ≤ spread day := spread_mono hlate
    by_cases hlast : y + 1 < 400
    · rw [spread_first (by omega) hlast] at hmono
      omega
    · obtain rfl : y = 399 := by omega
      exact absurd h1 (Int.not_lt.2 hlate)

/-! ## Months -/

/-- The first day of a month, reckoned from March. -/
lemma firstDay_eq (index : Int) : firstDay index =
    daysBeforeYear ((index - 2) / 12) + daysBeforeMonth ((index - 2) % 12) - epoch := by
  rw [firstDay, dayNumber]
  dsimp only
  by_cases hearly : index % 12 + 1 ≤ 2
  · have hyear : index / 12 - 1 = (index - 2) / 12 := by omega
    have hmonth : index % 12 + 1 + 9 = (index - 2) % 12 := by omega
    rw [if_pos hearly, if_pos hearly, hyear, hmonth]
    omega
  · have hyear : index / 12 = (index - 2) / 12 := by omega
    have hmonth : index % 12 + 1 - 3 = (index - 2) % 12 := by omega
    rw [if_neg hearly, if_neg hearly, hyear, hmonth]
    omega

/-- Every month has a day. -/
lemma firstDay_lt_succ (index : Int) : firstDay index < firstDay (index + 1) := by
  rw [firstDay_eq, firstDay_eq]
  generalize hmarch : index - 2 = march
  obtain rfl : index = march + 2 := by omega
  have hnext : march + 2 + 1 - 2 = march + 1 := by omega
  rw [hnext]
  by_cases hlast : march % 12 = 11
  · have hyear : (march + 1) / 12 = march / 12 + 1 := by omega
    have hmonth : (march + 1) % 12 = 0 := by omega
    rw [hyear, hmonth, hlast]
    unfold daysBeforeYear daysBeforeMonth
    omega
  · have hyear : (march + 1) / 12 = march / 12 := by omega
    have hmonth : (march + 1) % 12 = march % 12 + 1 := by omega
    rw [hyear, hmonth]
    unfold daysBeforeMonth
    omega

/-- A later month begins later. -/
lemma firstDay_lt_firstDay {m n : Int} (h : m < n) : firstDay m < firstDay n :=
  strictMono_int_of_lt_succ firstDay_lt_succ h

/-- A month that is not earlier begins no earlier. -/
lemma firstDay_le_firstDay {m n : Int} (h : m ≤ n) : firstDay m ≤ firstDay n :=
  (strictMono_int_of_lt_succ firstDay_lt_succ).monotone h

/-- Twelve months have the days of a leap year at most. -/
lemma firstDay_add_year_le (k : Int) : firstDay (k + 12) ≤ firstDay k + 366 := by
  have hyear : (k + 12 - 2) / 12 = (k - 2) / 12 + 1 ∧ (k + 12 - 2) % 12 = (k - 2) % 12 := by omega
  rw [firstDay_eq, firstDay_eq, hyear.1, hyear.2]
  unfold daysBeforeYear
  omega

/-- The date of a day: a month of a year that is reckoned from March, and a day of this month. -/
lemma exists_ofDayNumber (n : Int) : ∃ year month day : Int, 0 ≤ month ∧ month ≤ 11 ∧
    ofDayNumber n =
      { year := if month < 10 then year else year + 1
        month := if month < 10 then month + 3 else month - 9
        day := day - daysBeforeMonth month + 1 } ∧
    n + epoch = daysBeforeYear year + day ∧ daysBeforeMonth month ≤ day ∧
    day < daysBeforeMonth (month + 1) ∧ daysBeforeYear year + day < daysBeforeYear (year + 1) := by
  have hnonneg : 0 ≤ (n + epoch) % 146097 := Int.emod_nonneg _ (by decide)
  obtain ⟨hbounds, hfirst, hlast⟩ := year_of_spread hnonneg (Int.emod_lt_of_pos _ (by decide))
  have hcycle : (n + epoch) / 146097 * 146097 + (n + epoch) % 146097 = n + epoch := by omega
  have hform : ofDayNumber n = (
    let year := spread ((n + epoch) % 146097) / 365
    let day := (n + epoch) % 146097 - (365 * year + year / 4 - year / 100)
    let month := (5 * day + 2) / 153
    let shifted := year + (n + epoch) / 146097 * 400
    { year := if month < 10 then shifted else shifted + 1
      month := if month < 10 then month + 3 else month - 9
      day := day - daysBeforeMonth month + 1 } : Date) := rfl
  generalize (n + epoch) % 146097 = days at hform hbounds hfirst hlast hcycle
  generalize (n + epoch) / 146097 = cycle at hform hcycle
  generalize spread days / 365 = year at hform hbounds hfirst hlast
  have hday : days - (365 * year + year / 4 - year / 100) = days - daysBeforeYear year := by
    unfold daysBeforeYear
    omega
  dsimp only at hform
  rw [hday] at hform
  have hyear : daysBeforeYear (year + cycle * 400) = daysBeforeYear year + cycle * 146097 := by
    unfold daysBeforeYear
    omega
  have hnext : daysBeforeYear (year + cycle * 400 + 1) =
      daysBeforeYear (year + 1) + cycle * 146097 := by
    unfold daysBeforeYear
    omega
  have hlength : daysBeforeYear (year + 1) ≤ daysBeforeYear year + 367 := by
    unfold daysBeforeYear
    omega
  refine ⟨year + cycle * 400, (5 * (days - daysBeforeYear year) + 2) / 153,
    days - daysBeforeYear year, by omega, by omega, hform, by omega, ?_, ?_, by omega⟩
  · unfold daysBeforeMonth
    omega
  · unfold daysBeforeMonth
    omega

/-- Every day has a month. -/
lemma month_ofDayNumber (n : Int) : 1 ≤ (ofDayNumber n).month ∧ (ofDayNumber n).month ≤ 12 := by
  obtain ⟨year, month, day, hmonth0, hmonth1, hn, -⟩ := exists_ofDayNumber n
  rw [hn]
  dsimp only
  split <;> omega

/-- **Every day lies in the month of its date**, and is as many days behind its first day as its
date says. -/
theorem firstDay_monthIndex_le (n : Int) :
    firstDay (ofDayNumber n).monthIndex + (ofDayNumber n).day - 1 = n ∧
      1 ≤ (ofDayNumber n).day ∧ n < firstDay ((ofDayNumber n).monthIndex + 1) := by
  obtain ⟨year, month, day, hmonth0, hmonth1, hn, hdays, hfirst, hnext, hlast⟩ :=
    exists_ofDayNumber n
  have hindex : (ofDayNumber n).monthIndex = 12 * year + month + 2 := by
    rw [hn, monthIndex]
    dsimp only
    split <;> omega
  have hday : (ofDayNumber n).day = day - daysBeforeMonth month + 1 := by rw [hn]
  rw [hindex, hday, firstDay_eq, firstDay_eq]
  have hyear : (12 * year + month + 2 - 2) / 12 = year := by omega
  have hmonth : (12 * year + month + 2 - 2) % 12 = month := by omega
  rw [hyear, hmonth]
  refine ⟨by omega, by omega, ?_⟩
  by_cases hfebruary : month = 11
  · have hyear' : (12 * year + month + 2 + 1 - 2) / 12 = year + 1 := by omega
    have hmonth' : (12 * year + month + 2 + 1 - 2) % 12 = 0 := by omega
    have hmarch : daysBeforeMonth 0 = 0 := rfl
    rw [hyear', hmonth', hmarch]
    omega
  · have hyear' : (12 * year + month + 2 + 1 - 2) / 12 = year := by omega
    have hmonth' : (12 * year + month + 2 + 1 - 2) % 12 = month + 1 := by omega
    rw [hyear', hmonth']
    omega

/-- **The month of a day** is the last one that starts until then. -/
theorem le_monthIndex_iff (index n : Int) :
    index ≤ (ofDayNumber n).monthIndex ↔ firstDay index ≤ n := by
  obtain ⟨hday, hpos, hnext⟩ := firstDay_monthIndex_le n
  constructor
  · intro h
    have hmono := firstDay_le_firstDay h
    omega
  · intro h
    by_contra hlate
    have hnext' : (ofDayNumber n).monthIndex + 1 ≤ index := by omega
    have hmono := firstDay_le_firstDay hnext'
    omega

/-- The date of the first day of a month. -/
theorem ofDayNumber_firstDay (index : Int) :
    ofDayNumber (firstDay index) = ⟨index / 12, index % 12 + 1, 1⟩ := by
  have hindex : (ofDayNumber (firstDay index)).monthIndex = index := by
    have hle := (le_monthIndex_iff index (firstDay index)).2 le_rfl
    have hlt : ¬ index + 1 ≤ (ofDayNumber (firstDay index)).monthIndex := fun h =>
      absurd ((le_monthIndex_iff _ _).1 h) (Int.not_le.2 (firstDay_lt_succ index))
    omega
  obtain ⟨hday, -, -⟩ := firstDay_monthIndex_le (firstDay index)
  obtain ⟨hmonth0, hmonth1⟩ := month_ofDayNumber (firstDay index)
  rw [hindex] at hday
  generalize ofDayNumber (firstDay index) = d at *
  obtain ⟨year, month, day⟩ := d
  unfold monthIndex at hindex
  dsimp only at *
  rw [Date.mk.injEq]
  omega

/-- Months after the first day of a month, there is the first day of another month. -/
lemma addMonths_first (index n : Int) : addMonths ⟨index / 12, index % 12 + 1, 1⟩ n =
    ⟨(index + n) / 12, (index + n) % 12 + 1, 1⟩ := by
  have hindex : monthIndex ⟨index / 12, index % 12 + 1, 1⟩ = index := by
    unfold monthIndex
    dsimp only
    omega
  have hday : ∀ year month, min 1 (daysInMonth year month) = 1 := by
    intro year month
    unfold daysInMonth
    split_ifs <;> rfl
  rw [addMonths, hindex, ofMonthIndex]
  dsimp only
  rw [hday]

/-! ## The calendar's range -/

/-- A date that is valid is within the years of the calendar. -/
lemma year_of_isValid {d : Date} (h : d.isValid = true) :
    minYear ≤ d.year ∧ d.year ≤ maxYear := by
  unfold isValid at h
  simp only [Bool.and_eq_true, decide_eq_true_eq] at h
  omega

/-- There is a first day of every month of the years within the range. -/
lemma isValid_first_iff {index : Int} : isValid ⟨index / 12, index % 12 + 1, 1⟩ = true ↔
    minYear * 12 ≤ index ∧ index ≤ maxYear * 12 + 11 := by
  have hlast : 1 ≤ daysInMonth (index / 12) (index % 12 + 1) := by
    unfold daysInMonth
    split_ifs <;> omega
  simp only [isValid, Bool.and_eq_true, decide_eq_true_eq]
  omega

/-- The first day of a month of the calendar is in its range. -/
lemma firstDay_of_isValid {index : Int} (h : isValid ⟨index / 12, index % 12 + 1, 1⟩ = true) :
    firstDay (minYear * 12) ≤ firstDay index ∧ firstDay index ≤ firstDay (maxYear * 12 + 11) := by
  have hyear := year_of_isValid h
  exact ⟨firstDay_le_firstDay (by dsimp only at hyear; omega),
    firstDay_le_firstDay (by dsimp only at hyear; omega)⟩

end Sift.Date
