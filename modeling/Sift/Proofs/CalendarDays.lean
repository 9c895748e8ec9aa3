import Mathlib.Tactic.IntervalCases
import Sift.Proofs.CalendarMonths

/-!
# Days of the calendar

The two ways of naming a day are inverse to each other: a month has as many days as it should, so
that the number of a date lies in the month of the date. Dates are therefore in the order of their
days: first by the year, then by the month, then by the day of the month.

## Main results

* `Sift.Date.firstDay_succ`: a month is followed by the next one after its last day.
* `Sift.Date.ofDayNumber_dayNumber`: the date of the day of a date.
* `Sift.Date.order_cases`: days before and after the day of a date.
-/

set_option autoImplicit false

namespace Sift

namespace Date

variable {d : Date} {n : Int}

/-- A date in the calendar has a month and a day of this month. -/
lemma bounds_of_isValid (h : d.isValid = true) :
    (1 ≤ d.month ∧ d.month ≤ 12) ∧ 1 ≤ d.day ∧ d.day ≤ daysInMonth d.year d.month := by
  unfold isValid at h
  simp only [Bool.and_eq_true, decide_eq_true_eq] at h
  omega

/-- The day of a date is found from the first day of its month. -/
lemma dayNumber_eq (hmonth : 1 ≤ d.month ∧ d.month ≤ 12) :
    d.dayNumber = firstDay d.monthIndex + d.day - 1 := by
  have hindex : d.monthIndex / 12 = d.year ∧ d.monthIndex % 12 + 1 = d.month := by
    unfold monthIndex
    omega
  rw [firstDay, hindex.1, hindex.2]
  unfold dayNumber
  dsimp only
  omega

/-- **A month is followed by the next one** after as many days as it has. -/
theorem firstDay_succ (year : Int) {month : Int} (h : 1 ≤ month ∧ month ≤ 12) :
    firstDay (year * 12 + (month - 1) + 1) =
      firstDay (year * 12 + (month - 1)) + daysInMonth year month := by
  rw [firstDay_eq, firstDay_eq]
  by_cases hfebruary : month = 2
  · -- The leap day is the last day of a year that is reckoned from March.
    subst hfebruary
    have hlast : (year * 12 + (2 - 1) - 2) / 12 = year - 1 ∧
        (year * 12 + (2 - 1) - 2) % 12 = 11 := by omega
    have hnext : (year * 12 + (2 - 1) + 1 - 2) / 12 = year ∧
        (year * 12 + (2 - 1) + 1 - 2) % 12 = 0 := by omega
    rw [hlast.1, hlast.2, hnext.1, hnext.2, daysInMonth, if_pos rfl]
    have hleap : isLeapYear year = true ↔ year % 4 = 0 ∧ (year % 100 ≠ 0 ∨ year % 400 = 0) := by
      simp [isLeapYear]
    unfold daysBeforeYear daysBeforeMonth
    split
    · have := hleap.1 ‹_›
      omega
    · have := mt hleap.2 ‹_›
      omega
  · have hyear : (year * 12 + (month - 1) + 1 - 2) / 12 =
        (year * 12 + (month - 1) - 2) / 12 := by omega
    have hmonth : (year * 12 + (month - 1) + 1 - 2) % 12 =
        (year * 12 + (month - 1) - 2) % 12 + 1 := by omega
    have hmarch : (year * 12 + (month - 1) - 2) % 12 = (month + 9) % 12 := by omega
    have hdays : daysBeforeMonth ((month + 9) % 12 + 1) =
        daysBeforeMonth ((month + 9) % 12) + daysInMonth year month := by
      obtain ⟨hfirst, hlast⟩ := h
      rw [daysInMonth, if_neg hfebruary]
      interval_cases month <;> first | rfl | exact absurd rfl hfebruary
    rw [hyear, hmonth, hmarch, hdays]
    omega

/-- A date lies before the month after its own. -/
lemma dayNumber_lt_firstDay (h : d.isValid = true) :
    d.dayNumber < firstDay (d.monthIndex + 1) := by
  obtain ⟨hmonth, -, hday⟩ := bounds_of_isValid h
  rw [dayNumber_eq hmonth, monthIndex, firstDay_succ d.year hmonth]
  omega

/-- **Dates are in the order of their days.** A day is before the day of a date, or is this day, or
is after it, and its own date is earlier, or the same, or later: by the year, then by the month,
then by the day of the month. -/
theorem order_cases (h : d.isValid = true) (n : Int) :
    n < d.dayNumber ∧ ((ofDayNumber n).year < d.year ∨ (ofDayNumber n).year = d.year ∧
        ((ofDayNumber n).month < d.month ∨ (ofDayNumber n).month = d.month ∧
          (ofDayNumber n).day < d.day)) ∨
      n = d.dayNumber ∧ (ofDayNumber n).year = d.year ∧ (ofDayNumber n).month = d.month ∧
        (ofDayNumber n).day = d.day ∨
      d.dayNumber < n ∧ (d.year < (ofDayNumber n).year ∨ (ofDayNumber n).year = d.year ∧
        (d.month < (ofDayNumber n).month ∨ (ofDayNumber n).month = d.month ∧
          d.day < (ofDayNumber n).day)) := by
  obtain ⟨hmonth, hpos, -⟩ := bounds_of_isValid h
  obtain ⟨hday, hpos', hnext⟩ := firstDay_monthIndex_le n
  have hmonth' := month_ofDayNumber n
  have hfirst := dayNumber_eq hmonth
  have hlast := dayNumber_lt_firstDay h
  have hindex : (ofDayNumber n).monthIndex =
      (ofDayNumber n).year * 12 + ((ofDayNumber n).month - 1) := rfl
  have hindex' : d.monthIndex = d.year * 12 + (d.month - 1) := rfl
  rcases lt_trichotomy (ofDayNumber n).monthIndex d.monthIndex with hlt | heq | hgt
  · have hmono : firstDay ((ofDayNumber n).monthIndex + 1) ≤ firstDay d.monthIndex :=
      firstDay_le_firstDay hlt
    omega
  · -- In one month, days of the month are as far from each other as days are.
    rw [heq] at hday
    omega
  · have hmono : firstDay (d.monthIndex + 1) ≤ firstDay (ofDayNumber n).monthIndex :=
      firstDay_le_firstDay hgt
    omega

/-- **The date of the day of a date** is the date. -/
theorem ofDayNumber_dayNumber (h : d.isValid = true) : ofDayNumber d.dayNumber = d := by
  rcases order_cases h d.dayNumber with ⟨hlt, -⟩ | ⟨-, hyear, hmonth, hday⟩ | ⟨hlt, -⟩
  · exact absurd hlt (lt_irrefl _)
  · cases hdate : ofDayNumber d.dayNumber with
    | mk year month day =>
      rw [hdate] at hyear hmonth hday
      subst hyear hmonth hday
      rfl
  · exact absurd hlt (lt_irrefl _)

end Date

end Sift
