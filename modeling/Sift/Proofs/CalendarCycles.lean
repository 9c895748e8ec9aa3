import Mathlib.Tactic.SplitIfs
import Sift.Proofs.DateOperations
import Sift.Proofs.IntervalTiling

/-!
# Cycles of the calendar

After four hundred years the calendar repeats itself, days of the week included: they are a whole
number of weeks. On a clock that keeps its distance from UTC, operations of date expressions
therefore lead from two instants that are such a cycle apart to two that are, as long as both stay
in the calendar's range. Operations never forget where they started.

## Main definitions

* `Sift.Date.nextCycle`, `Sift.WallTime.nextCycle`, `Sift.Instant.nextCycle`: the same time four
  hundred years later.

## Main results

* `Sift.DateUnit.wallFloor_nextCycle`, `Sift.DateUnit.wallAdd?_nextCycle`: units begin and end
  alike in every cycle.
* `Sift.DateExpression.scan_cycleApart`: runs of the same operations stay a cycle apart.
-/

set_option autoImplicit false

namespace Sift

/-! ## Days -/

namespace Date

/-- The days of four hundred years. -/
def cycleDays : Int := 146097

/-- The same day four hundred years later. -/
def nextCycle (d : Date) : Date := { d with year := d.year + 400 }

/-- The same date a cycle later is as many days later as a cycle has. -/
lemma dayNumber_nextCycle (d : Date) : d.nextCycle.dayNumber = d.dayNumber + cycleDays := by
  unfold dayNumber nextCycle daysBeforeYear cycleDays
  dsimp only
  split <;> omega

/-- As many days later as a cycle has, the date is the same. -/
lemma ofDayNumber_add_cycle (n : Int) :
    ofDayNumber (n + cycleDays) = (ofDayNumber n).nextCycle := by
  have hday : (n + cycleDays + epoch) % 146097 = (n + epoch) % 146097 := by
    unfold cycleDays
    omega
  have hcycle : (n + cycleDays + epoch) / 146097 = (n + epoch) / 146097 + 1 := by
    unfold cycleDays
    omega
  unfold ofDayNumber nextCycle
  dsimp only
  rw [hday, hcycle, Date.mk.injEq]
  refine ⟨?_, rfl, rfl⟩
  split <;> omega

/-- Months have their lengths again a cycle later. -/
lemma daysInMonth_add_cycle (year month : Int) :
    daysInMonth (year + 400) month = daysInMonth year month := by
  have hleap : isLeapYear (year + 400) = isLeapYear year := by
    have hfour : (year + 400) % 4 = year % 4 := by omega
    have hcentury : (year + 400) % 100 = year % 100 := by omega
    have hcycle : (year + 400) % 400 = year % 400 := by omega
    unfold isLeapYear
    rw [hfour, hcentury, hcycle]
  unfold daysInMonth
  rw [hleap]

/-- Shifting by months commutes with a cycle. -/
lemma addMonths_nextCycle (d : Date) (n : Int) :
    d.nextCycle.addMonths n = (d.addMonths n).nextCycle := by
  have hindex : d.nextCycle.monthIndex + n = d.monthIndex + n + 4800 := by
    unfold monthIndex nextCycle
    dsimp only
    omega
  have hyear : (d.monthIndex + n + 4800) / 12 = (d.monthIndex + n) / 12 + 400 := by omega
  have hmonth : (d.monthIndex + n + 4800) % 12 = (d.monthIndex + n) % 12 := by omega
  unfold addMonths ofMonthIndex
  dsimp only
  rw [hindex, hyear, hmonth, daysInMonth_add_cycle]
  rfl

end Date

/-! ## Times on a clock -/

/-- The seconds of four hundred years. -/
def cycleSeconds : Int := Date.cycleDays * secondsPerDay

/-- Moving does not depend on where the move starts. -/
lemma shiftSeconds_add (seconds k : Int) (nanos : Nat) (n : Int) :
    shiftSeconds (seconds + k) nanos n =
      ((shiftSeconds seconds nanos n).1 + k, (shiftSeconds seconds nanos n).2) := by
  unfold shiftSeconds
  split_ifs <;> simp only [Prod.mk.injEq, and_true] <;> omega

namespace WallTime

variable {t w w' : WallTime}

/-- The same time on the same day four hundred years later. -/
def nextCycle (t : WallTime) : WallTime := ⟨t.seconds + cycleSeconds, t.nanos⟩

/-- The day of a time, a cycle later. -/
lemma day_nextCycle (t : WallTime) : t.nextCycle.day = t.day + Date.cycleDays :=
  Int.add_mul_ediv_right _ _ (by decide)

/-- The time of day stays as it is. -/
lemma secondOfDay_nextCycle (t : WallTime) : t.nextCycle.secondOfDay = t.secondOfDay :=
  Int.add_mul_emod_self_right _ _ _

/-- The date of a time, a cycle later. -/
lemma date_nextCycle (t : WallTime) : t.nextCycle.date = t.date.nextCycle := by
  rw [date, day_nextCycle, Date.ofDayNumber_add_cycle, date]

/-- The midnight of a day, a cycle later. -/
lemma ofDay_add_cycle (day : Int) : ofDay (day + Date.cycleDays) = (ofDay day).nextCycle := by
  unfold ofDay nextCycle cycleSeconds
  rw [Int.add_mul]

/-- The midnight of a date, a cycle later. -/
lemma ofDate_nextCycle (d : Date) : ofDate d.nextCycle = (ofDate d).nextCycle := by
  rw [ofDate, Date.dayNumber_nextCycle, ofDay_add_cycle, ofDate]

/-- Two shifts by the same time, a cycle apart, lead to times a cycle apart. -/
lemma shift?_nextCycle {n : Int} (h : t.shift? n = some w) (h' : t.nextCycle.shift? n = some w') :
    w' = w.nextCycle := by
  unfold shift? at h h'
  unfold nextCycle at h'
  rw [shiftSeconds_add] at h'
  dsimp only at h h'
  split_ifs at h h'
  obtain rfl := Option.some.inj h
  exact (Option.some.inj h').symm

/-- Two shifts by the same months, a cycle apart, lead to times a cycle apart. -/
lemma addMonths?_nextCycle {n : Int} (h : t.addMonths? n = some w)
    (h' : t.nextCycle.addMonths? n = some w') : w' = w.nextCycle := by
  unfold addMonths? at h h'
  rw [date_nextCycle, Date.addMonths_nextCycle] at h'
  dsimp only at h h'
  rw [Date.dayNumber_nextCycle, secondOfDay_nextCycle] at h'
  split_ifs at h h'
  obtain rfl := Option.some.inj h
  obtain rfl := Option.some.inj h'
  unfold nextCycle cycleSeconds
  rw [Int.add_mul, Int.add_right_comm]

end WallTime

namespace DateUnit

/-- The start of a unit, a cycle later. -/
theorem wallFloor_nextCycle (u : DateUnit) (t : WallTime) :
    u.wallFloor t.nextCycle = (u.wallFloor t).nextCycle := by
  cases u with
  | year =>
    have hyear : ∀ d : Date, d.nextCycle.startOfYear = d.startOfYear.nextCycle := fun _ => rfl
    simp only [wallFloor, WallTime.date_nextCycle, hyear, WallTime.ofDate_nextCycle]
  | month =>
    have hmonth : ∀ d : Date, d.nextCycle.startOfMonth = d.startOfMonth.nextCycle := fun _ => rfl
    simp only [wallFloor, WallTime.date_nextCycle, hmonth, WallTime.ofDate_nextCycle]
  | week =>
    have hweekday : Date.daysFromMonday (t.day + Date.cycleDays) = Date.daysFromMonday t.day := by
      unfold Date.daysFromMonday Date.cycleDays
      omega
    have hmonday : t.day + Date.cycleDays - Date.daysFromMonday t.day =
        t.day - Date.daysFromMonday t.day + Date.cycleDays := by omega
    rw [wallFloor, WallTime.day_nextCycle, hweekday, hmonday, WallTime.ofDay_add_cycle, wallFloor]
  | day =>
    rw [wallFloor, WallTime.day_nextCycle, WallTime.ofDay_add_cycle, wallFloor]
  | hour =>
    simp only [wallFloor, WallTime.nextCycle, cycleSeconds, Date.cycleDays, secondsPerDay,
      WallTime.mk.injEq, and_true]
    omega
  | minute =>
    simp only [wallFloor, WallTime.nextCycle, cycleSeconds, Date.cycleDays, secondsPerDay,
      WallTime.mk.injEq, and_true]
    omega
  | second => rfl

/-- Two steps of the same units, a cycle apart, lead to times a cycle apart. -/
theorem wallAdd?_nextCycle {u : DateUnit} {t w w' : WallTime} {n : Int}
    (h : u.wallAdd? t n = some w) (h' : u.wallAdd? t.nextCycle n = some w') :
    w' = w.nextCycle := by
  cases u with
  | year | month => exact WallTime.addMonths?_nextCycle h h'
  | week | day | hour | minute | second => exact WallTime.shift?_nextCycle h h'

end DateUnit

/-! ## Instants -/

/-- The instant four hundred years later. -/
def Instant.nextCycle (t : Instant) : Instant := ⟨t.seconds + cycleSeconds, t.nanos⟩

/-- What clocks show, a cycle later. -/
lemma Instant.wallTime_nextCycle (t : Instant) (offset : Int) :
    t.nextCycle.wallTime offset = (t.wallTime offset).nextCycle := by
  unfold wallTime nextCycle WallTime.nextCycle
  rw [Int.add_right_comm]

/-- Two instants a cycle apart, shifted by the same time. -/
lemma Instant.shift?_nextCycle {t x x' : Instant} {n : Int} (h : t.shift? n = some x)
    (h' : t.nextCycle.shift? n = some x') : x' = x.nextCycle := by
  unfold shift? at h h'
  unfold nextCycle at h'
  rw [shiftSeconds_add] at h'
  dsimp only at h h'
  split_ifs at h h'
  obtain rfl := Option.some.inj h
  exact (Option.some.inj h').symm

/-! ## Operations -/

/-- Two times four hundred years apart. -/
def ZonedTime.CycleApart (t t' : ZonedTime) : Prop := t'.instant = t.instant.nextCycle

namespace DateUnit

variable {u : DateUnit} {offset : Int} {t t' x x' : ZonedTime}

/-- Clocks with the same offset show times a cycle apart. -/
lemma wall_of_cycleApart (ht : t.CycleApart t') (offset : Int) :
    ZonedTime.wall ⟨t'.instant, offset⟩ = (ZonedTime.wall ⟨t.instant, offset⟩).nextCycle := by
  unfold ZonedTime.wall
  rw [ht, Instant.wallTime_nextCycle]

/-- A time on the wall is an instant on a clock that keeps its distance from UTC. -/
lemma cycleApart_of_ofWall {w : WallTime} (h : (Zone.fixed offset).ofWall w = .ok x)
    (h' : (Zone.fixed offset).ofWall w.nextCycle = .ok x') : x.CycleApart x' := by
  obtain ⟨-, rfl⟩ := Zone.ofWall_fixed_iff.1 h
  obtain ⟨-, rfl⟩ := Zone.ofWall_fixed_iff.1 h'
  have hseconds : w.seconds + cycleSeconds - offset = w.seconds - offset + cycleSeconds := by omega
  unfold ZonedTime.CycleApart Instant.nextCycle WallTime.nextCycle
  dsimp only
  rw [hseconds]

/-- Rounding keeps two times a cycle apart. -/
lemma cycleApart_of_floor (ht : t.CycleApart t') (h : u.floor t (.fixed offset) = .ok x)
    (h' : u.floor t' (.fixed offset) = .ok x') : x.CycleApart x' := by
  unfold floor Zone.localize Zone.offsetAt at h h'
  dsimp only at h h'
  rw [wall_of_cycleApart ht, wallFloor_nextCycle] at h'
  split_ifs at h h'
  · exact cycleApart_of_ofWall h h'
  · exact cycleApart_of_ofWall h h'

/-- Addition keeps two times a cycle apart. -/
lemma cycleApart_of_add {n : Int} (ht : t.CycleApart t')
    (h : u.add t n (.fixed offset) = .ok x) (h' : u.add t' n (.fixed offset) = .ok x') :
    x.CycleApart x' := by
  unfold add Zone.localize Zone.offsetAt at h h'
  dsimp only at h h'
  split at h
  · rename_i length hlength
    rw [hlength, ht] at h'
    dsimp only at h'
    split at h
    · rename_i i hi
      split at h'
      · rename_i i' hi'
        obtain rfl := Except.ok.inj h
        obtain rfl := Except.ok.inj h'
        exact Instant.shift?_nextCycle hi hi'
      · cases h'
    · cases h
  · rename_i hlength
    rw [hlength, wall_of_cycleApart ht] at h'
    dsimp only at h'
    split_ifs at h h'
    split at h
    · rename_i w hw
      split at h'
      · rename_i w' hw'
        obtain rfl := wallAdd?_nextCycle hw hw'
        exact cycleApart_of_ofWall h h'
      · cases h'
    · cases h

end DateUnit

namespace DateExpression

variable {offset : Int} {text : String} {t t' x x' : ZonedTime}

/-- An operation keeps two times a cycle apart. -/
lemma Operation.cycleApart_of_apply {op : Operation} (ht : t.CycleApart t')
    (h : op.apply (.fixed offset) false t = .ok x)
    (h' : op.apply (.fixed offset) false t' = .ok x') : x.CycleApart x' := by
  cases op with
  | round u => exact DateUnit.cycleApart_of_floor ht h h'
  | move n u => exact DateUnit.cycleApart_of_add ht h h'

/-- Operations keep two times a cycle apart. -/
lemma Operation.cycleApart_of_run {ops : List Operation} (ht : t.CycleApart t')
    (h : run (.fixed offset) false t ops = .ok x)
    (h' : run (.fixed offset) false t' ops = .ok x') : x.CycleApart x' := by
  induction ops generalizing t t' with
  | nil =>
    obtain rfl := Except.ok.inj h
    obtain rfl := Except.ok.inj h'
    exact ht
  | cons op ops ih =>
    obtain ⟨y, hy, hx⟩ := run_cons_eq_ok_iff.1 h
    obtain ⟨y', hy', hx'⟩ := run_cons_eq_ok_iff.1 h'
    exact ih (cycleApart_of_apply ht hy hy') hx hx'

/-- **Runs of the same operations stay a cycle apart** on a clock that keeps its distance from
UTC. -/
theorem scan_cycleApart {cs : List Char} {pending : Pending} {place : Nat} (ht : t.CycleApart t')
    (h : scan ⟨.fixed offset, false, text⟩ pending place t cs = .ok x)
    (h' : scan ⟨.fixed offset, false, text⟩ pending place t' cs = .ok x') : x.CycleApart x' := by
  obtain ⟨ops, hops, hx⟩ := scan_eq_ok_iff.1 h
  obtain ⟨ops', hops', hx'⟩ := scan_eq_ok_iff.1 h'
  obtain rfl := Option.some.inj (hops.symm.trans hops')
  exact Operation.cycleApart_of_run ht hx hx'

end DateExpression

end Sift
