import Mathlib.Data.List.TakeWhile
import Sift.Proofs.CalendarDays
import Sift.Proofs.DateExpressions

/-!
# Dates written in full

A date is written as a year, and as many more of a month, a day, an hour with a minute, and a second
as are known, with four digits for the year and two for everything else. Such a text is read as the
time on the wall at which what it names begins, with the unit down to which it is written.

Several forms are tried on a text, one after the other. A text of one form is not taken for one of
another, since something is missing for that: an offset needs a text of twenty characters, and the
other forms a field, or the right character before it.

## Main definitions

* `Sift.WrittenDate`: a year, or more, as it is written.
* `Sift.WrittenDate.fields`: the numbers in it, from the year on.
* `Sift.WrittenDate.start`: the time on the wall at which it begins.

## Main results

* `Sift.DateLiteral.date?_dayText`: a day is read up to where it ends.
* `Sift.DateLiteral.length_of_offsetForm?`: texts with an offset are long.
* `Sift.WrittenDate.parse?_text`: what a written date is read as.
* `Sift.WrittenDate.evaluate_text`: the instant that it stands for, or the end of its unit.
-/

set_option autoImplicit false

namespace Sift

open Numeral

/-- A character other than a digit is no digit. -/
lemma Numeral.ne_of_isDigit {c other : Char} (hc : isDigit c = true)
    (hother : isDigit other = false) : c ≠ other := by
  rintro rfl
  exact Bool.false_ne_true (hother.symm.trans hc)

/-! ## Numbers of fixed width -/

namespace Date

variable {width n : Nat}

/-- A padded number has zeros in front of its digits. -/
lemma toList_padded (width n : Nat) : (padded width n).toList =
    List.replicate (width - (decimalDigits n).length) '0' ++ decimalDigits n :=
  String.toList_ofList

/-- A padded number has digits only. -/
lemma isDigit_of_mem_padded {c : Char} (h : c ∈ (padded width n).toList) : isDigit c = true := by
  rw [toList_padded] at h
  rcases List.mem_append.1 h with h | h
  · rw [List.eq_of_mem_replicate h]
    rfl
  · exact isDigit_of_mem_decimalDigits h

/-- A padded number is read as the number. -/
lemma ofDigits_padded (width n : Nat) : ofDigits (padded width n).toList = n := by
  rw [toList_padded, ofDigits_zeros_append, ofDigits_decimalDigits]

/-- A padded number has its width. -/
lemma length_padded (hwidth : 0 < width) (h : n < Nat.pow 10 width) :
    (padded width n).toList.length = width := by
  have hlength : (decimalDigits n).length ≤ width :=
    (Nat.length_toDigits_le_iff (by decide) hwidth).2 h
  rw [toList_padded, List.length_append, List.length_replicate]
  omega

/-- Years are written with four digits. -/
lemma length_padded_year {y : Nat} (h : y ≤ 9999) : (padded 4 y).toList.length = 4 :=
  length_padded (by decide) (Nat.lt_succ_of_le h)

/-- Other fields are written with two digits. -/
lemma length_padded_two (h : n < 100) : (padded 2 n).toList.length = 2 :=
  length_padded (by decide) h

/-- There is a digit in front. -/
lemma exists_padded (width n : Nat) : ∃ c cs, (padded width n).toList = c :: cs ∧
    isDigit c = true := by
  have hne : (padded width n).toList ≠ [] := by
    rw [toList_padded]
    exact List.append_ne_nil_of_right_ne_nil _ Nat.toDigits_ne_nil
  obtain ⟨c, cs, hcs⟩ := List.exists_cons_of_ne_nil hne
  exact ⟨c, cs, hcs, isDigit_of_mem_padded (hcs ▸ List.mem_cons_self)⟩

end Date

/-! ## Texts -/

/-- A date as it is written. -/
inductive WrittenDate where
  /-- A year. -/
  | year (y : Nat)
  /-- A month of a year. -/
  | month (y m : Nat)
  /-- A day. -/
  | day (y m d : Nat)
  /-- A minute, with a letter or a blank before the hour. -/
  | minute (letter : Bool) (y m d h min : Nat)
  /-- A second. -/
  | second (letter : Bool) (y m d h min s : Nat)
deriving DecidableEq, Repr

namespace WrittenDate

/-- The text of a day. -/
def dayText (y m d : Nat) : String :=
  Date.padded 4 y ++ "-" ++ Date.padded 2 m ++ "-" ++ Date.padded 2 d

/-- The text of an hour and a minute, with what stands before it. -/
def minuteText (letter : Bool) (h min : Nat) : String :=
  (if letter then "T" else " ") ++ Date.padded 2 h ++ ":" ++ Date.padded 2 min

/-- The text of the date. -/
def text : WrittenDate → String
  | year y => Date.padded 4 y
  | month y m => Date.padded 4 y ++ "-" ++ Date.padded 2 m
  | day y m d => dayText y m d
  | minute letter y m d h min => dayText y m d ++ minuteText letter h min
  | second letter y m d h min s =>
    dayText y m d ++ minuteText letter h min ++ ":" ++ Date.padded 2 s

/-- The unit down to which the date is written. -/
def unit : WrittenDate → DateUnit
  | year .. => .year
  | month .. => .month
  | day .. => .day
  | minute .. => .minute
  | second .. => .second

/-- The numbers in the text. -/
def fields : WrittenDate → List Int
  | year y => [(y : Int)]
  | month y m => [(y : Int), (m : Int)]
  | day y m d => [(y : Int), (m : Int), (d : Int)]
  | minute _ y m d h min => [(y : Int), (m : Int), (d : Int), (h : Int), (min : Int)]
  | second _ y m d h min s =>
    [(y : Int), (m : Int), (d : Int), (h : Int), (min : Int), (s : Int)]

/-- The first day of what the date names. -/
def firstDay : WrittenDate → Date
  | year y => ⟨y, 1, 1⟩
  | month y m => ⟨y, m, 1⟩
  | day y m d | minute _ y m d _ _ | second _ y m d _ _ _ => ⟨y, m, d⟩

/-- The hour, minute and second at which it begins. -/
def clock : WrittenDate → Nat × Nat × Nat
  | year .. | month .. | day .. => (0, 0, 0)
  | minute _ _ _ _ h min => (h, min, 0)
  | second _ _ _ _ h min s => (h, min, s)

/-- There is such a date in the years of four digits, and such a time of day. Every minute may have
a leap second. -/
structure Valid (l : WrittenDate) : Prop where
  year : l.firstDay.year ≤ 9999
  day : l.firstDay.isValid = true
  hour : l.clock.1 ≤ 23
  minute : l.clock.2.1 ≤ 59
  second : l.clock.2.2 ≤ 60

/-- The time on the wall at which it begins. -/
def start (l : WrittenDate) : WallTime :=
  let base := l.firstDay.dayNumber * secondsPerDay + l.clock.1 * 3600 + l.clock.2.1 * 60
  if l.clock.2.2 = 60 then ⟨base + 59, nanosPerSecond⟩ else ⟨base + l.clock.2.2, 0⟩

variable {y m d h min : Nat} {letter : Bool}

/-- The characters of a day, in front of a rest. -/
lemma toList_dayText (y m d : Nat) (rest : List Char) : (dayText y m d).toList ++ rest =
    (Date.padded 4 y).toList ++ '-' :: ((Date.padded 2 m).toList ++ '-' ::
      ((Date.padded 2 d).toList ++ rest)) := by
  simp [dayText]

/-- The characters of hours and minutes, in front of a rest. -/
lemma toList_minuteText (letter : Bool) (h min : Nat) (rest : List Char) :
    (minuteText letter h min).toList ++ rest = (if letter then 'T' else ' ') ::
      ((Date.padded 2 h).toList ++ ':' :: ((Date.padded 2 min).toList ++ rest)) := by
  cases letter <;> simp [minuteText]

/-- Months and days of the month have two digits at most. -/
lemma lt_of_isValid (hd : Date.isValid ⟨y, m, d⟩ = true) : m < 100 ∧ d < 100 := by
  obtain ⟨⟨-, hmonth⟩, -, hday⟩ := Date.bounds_of_isValid hd
  have hlength : Date.daysInMonth y m ≤ 31 := by
    unfold Date.daysInMonth
    split_ifs <;> decide
  dsimp only at hmonth hday
  omega

end WrittenDate

/-! ## Fields -/

namespace DateLiteral

open Date WrittenDate

variable {least width n y m d h min s : Nat}

/-- A number of fixed width is read, whatever follows it. -/
lemma digits?_padded (hwidth : 0 < width) (hleast : least ≤ width) (h : n < Nat.pow 10 width)
    (rest : List Char) :
    digits? least width ((padded width n).toList ++ rest) = some (n, rest) := by
  have hlength := length_padded hwidth h
  have htake : ((padded width n).toList ++ rest).take width = (padded width n).toList :=
    List.take_left' hlength
  have hdrop : ((padded width n).toList ++ rest).drop width = rest := List.drop_left' hlength
  have hdigits : (padded width n).toList.takeWhile isDigit = (padded width n).toList :=
    List.takeWhile_eq_self_iff.2 fun _ => isDigit_of_mem_padded
  have hsome : ¬ ((padded width n).toList.length < least ∨
      (padded width n).toList.isEmpty = true) := by
    rw [List.isEmpty_iff_length_eq_zero]
    omega
  unfold digits?
  dsimp only
  rw [htake, hdigits, if_neg hsome, ofDigits_padded, hlength, hdrop]

/-- There are no blanks in front of a number. -/
lemma dropWhile_isBlank_padded (width n : Nat) (rest : List Char) :
    ((padded width n).toList ++ rest).dropWhile isBlank = (padded width n).toList ++ rest := by
  obtain ⟨c, cs, hcs, hc⟩ := exists_padded width n
  rw [hcs, List.cons_append, List.dropWhile_cons_of_neg]
  rw [not_isBlank_of_isDigit hc]
  exact Bool.false_ne_true

/-- A field is read as it was written. -/
lemma field?_padded (h : n < 100) (rest : List Char) :
    field? ((padded 2 n).toList ++ rest) = some (n, rest) := by
  rw [field?, dropWhile_isBlank_padded]
  exact digits?_padded (by decide) (by decide) h rest

/-- A year is read as it was written. -/
lemma year?_padded (h : y < 10000) (rest : List Char) :
    year? ((padded 4 y).toList ++ rest) = some ((y : Int), rest) := by
  obtain ⟨c, cs, hcs, hc⟩ := exists_padded 4 y
  have hyear : digits? 1 4 ((padded 4 y).toList ++ rest) = some (y, rest) :=
    digits?_padded (by decide) (by decide) h rest
  unfold year?
  rw [dropWhile_isBlank_padded]
  rw [hcs] at hyear ⊢
  split
  · rename_i hsign
    obtain ⟨rfl, -⟩ := List.cons.inj hsign
    exact absurd hc (by decide)
  · rename_i hsign
    obtain ⟨rfl, -⟩ := List.cons.inj hsign
    exact absurd hc (by decide)
  · rw [hyear]
    rfl

/-- A character is read where it stands. -/
lemma char?_cons (c : Char) (rest : List Char) : char? c (c :: rest) = some rest := if_pos rfl

/-- What is read first is read. -/
lemma bind_eq_of_eq_some {α β : Type} {o : Option α} {a : α} {f : α → Option β} {r : Option β}
    (h : o = some a) (hf : f a = r) : o >>= f = r := by
  rw [h]
  exact hf

/-- **A day is read up to where it ends.** -/
theorem date?_dayText (hyear : y ≤ 9999) (hday : Date.isValid ⟨y, m, d⟩ = true)
    (rest : List Char) : date? ((dayText y m d).toList ++ rest) = some (⟨y, m, d⟩, rest) := by
  obtain ⟨hm, hd⟩ := lt_of_isValid hday
  have hvalid : validDate? ⟨y, m, d⟩ = some ⟨y, m, d⟩ := if_pos hday
  rw [toList_dayText]
  refine bind_eq_of_eq_some (year?_padded (by omega) _) ?_
  refine bind_eq_of_eq_some (char?_cons _ _) ?_
  refine bind_eq_of_eq_some (field?_padded hm _) ?_
  refine bind_eq_of_eq_some (char?_cons _ _) ?_
  refine bind_eq_of_eq_some (field?_padded hd _) ?_
  exact bind_eq_of_eq_some hvalid rfl

/-- A month without a day is no day. -/
lemma date?_month (hyear : y ≤ 9999) (hm : m < 100) :
    date? ((padded 4 y).toList ++ '-' :: ((padded 2 m).toList ++ [])) = none := by
  refine bind_eq_of_eq_some (year?_padded (by omega) _) ?_
  refine bind_eq_of_eq_some (char?_cons _ _) ?_
  exact bind_eq_of_eq_some (field?_padded hm _) rfl

/-! ## Texts with an offset -/

/-- Digits that were read are missing from the rest. -/
lemma length_of_digits? {cs : List Char} {x : Nat × List Char}
    (h : digits? least width cs = some x) : x.2.length + least ≤ cs.length := by
  unfold digits? at h
  dsimp only at h
  split at h
  · cases h
  · rename_i hsome
    obtain rfl := Option.some.inj h
    have htaken : ((cs.take width).takeWhile isDigit).length ≤ cs.length :=
      (List.takeWhile_sublist _).length_le.trans (List.take_sublist _ _).length_le
    have hdropped := List.length_drop (i := ((cs.take width).takeWhile isDigit).length) (l := cs)
    dsimp only
    omega

/-- A character that was read is missing from the rest. -/
lemma length_of_char? {c : Char} {cs rest : List Char} (h : char? c cs = some rest) :
    rest.length + 1 ≤ cs.length := by
  unfold char? at h
  split at h
  · cases h
  · split at h
    · obtain rfl := Option.some.inj h
      exact le_rfl
    · cases h

/-- A fraction leaves no longer text. -/
lemma length_of_fraction? {cs : List Char} {x : Nat × List Char} (h : fraction? cs = some x) :
    x.2.length ≤ cs.length := by
  unfold fraction? at h
  dsimp only at h
  split at h
  · split at h
    · cases h
    · obtain rfl := Option.some.inj h
      exact (List.dropWhile_sublist _).length_le.trans (Nat.le_succ _)
  · obtain rfl := Option.some.inj h
    exact le_rfl

/-- An offset is not empty. -/
lemma length_of_offset? {cs : List Char} {n : Int} (h : offset? cs = some n) :
    1 ≤ cs.length := by
  cases cs with
  | nil => cases h
  | cons c rest => exact Nat.le_add_left _ _

/-- What stands behind a day has nine characters at least. -/
lemma length_of_offsetTime? {date : Date} {cs : List Char} : ∀ l, (do
    let (h, cs) ← digits? 2 2 cs
    let cs ← char? ':' cs
    let (m, cs) ← digits? 2 2 cs
    let cs ← char? ':' cs
    let (s, cs) ← digits? 2 2 cs
    let (nanos, cs) ← fraction? cs
    let offset ← offset? cs
    let t ← wallTime? date h m s nanos
    (t.instant? offset).map instant) = some l → 9 ≤ cs.length := by
  refine forall_bind fun hour hhour => forall_bind fun cs₁ hcolon => ?_
  refine forall_bind fun minute hminute => forall_bind fun cs₂ hcolon' => ?_
  refine forall_bind fun second hsecond => forall_bind fun fraction hfraction => ?_
  refine forall_bind fun offset hoffset => fun _ _ => ?_
  replace hhour := length_of_digits? hhour
  replace hcolon := length_of_char? hcolon
  replace hminute := length_of_digits? hminute
  replace hcolon' := length_of_char? hcolon'
  replace hsecond := length_of_digits? hsecond
  replace hfraction := length_of_fraction? hfraction
  replace hoffset := length_of_offset? hoffset
  omega

/-- **Texts with an offset are long**: they have all fields down to the second, and something behind
it. -/
theorem length_of_offsetForm? {cs : List Char} :
    ∀ l, offsetForm? cs = some l → 20 ≤ cs.length := by
  unfold offsetForm?
  refine forall_bind fun year hyear => forall_bind fun cs₁ hdash => ?_
  refine forall_bind fun month hmonth => forall_bind fun cs₂ hdash' => ?_
  refine forall_bind fun day hday => forall_bind fun date _ => ?_
  replace hyear := length_of_digits? hyear
  replace hdash := length_of_char? hdash
  replace hmonth := length_of_digits? hmonth
  replace hdash' := length_of_char? hdash'
  replace hday := length_of_digits? hday
  split
  · rename_i hcs
    refine forall_ite (forall_bind fun rest hrest l hl => ?_) fun l hl => by cases hl
    obtain rfl := Option.some.inj hrest
    have htime := length_of_offsetTime? l hl
    rw [hcs, List.length_cons] at hday
    omega
  · exact fun l hl => by cases hl

/-! ## Times on the wall -/

/-- A form with the right character between day and time reads a day, an hour and a minute. -/
lemma ofForm?_append (form : WallForm) (hyear : y ≤ 9999)
    (hday : Date.isValid ⟨y, m, d⟩ = true) (hh : h ≤ 23) (hmin : min ≤ 59) (rest : List Char) :
    ofForm? form ((dayText y m d).toList ++ ((minuteText form.letter h min).toList ++ rest)) = (do
      let (s, cs) ← if form.seconds then (char? ':' rest).bind field? else some (0, rest)
      let (nanos, cs) ← if form.fraction then fraction? cs else some (0, cs)
      if cs.isEmpty then wallTime? ⟨y, m, d⟩ h min s nanos else none) := by
  obtain ⟨letter, seconds, fraction⟩ := form
  rw [toList_minuteText]
  refine bind_eq_of_eq_some (date?_dayText hyear hday _) ?_
  cases letter with
  | true =>
    refine bind_eq_of_eq_some (char?_cons _ _) ?_
    refine bind_eq_of_eq_some (field?_padded (by omega) _) ?_
    refine bind_eq_of_eq_some (char?_cons _ _) ?_
    exact bind_eq_of_eq_some (field?_padded (by omega) _) rfl
  | false =>
    have hblank : (' ' :: ((padded 2 h).toList ++ ':' ::
        ((padded 2 min).toList ++ rest))).dropWhile isBlank =
        (padded 2 h).toList ++ ':' :: ((padded 2 min).toList ++ rest) := by
      rw [List.dropWhile_cons_of_pos (by decide), dropWhile_isBlank_padded]
    refine bind_eq_of_eq_some (congrArg some hblank) ?_
    refine bind_eq_of_eq_some (field?_padded (by omega) _) ?_
    refine bind_eq_of_eq_some (char?_cons _ _) ?_
    exact bind_eq_of_eq_some (field?_padded (by omega) _) rfl

/-- A form wants the right character between day and time. -/
lemma ofForm?_of_ne (form : WallForm) {letter : Bool} (hne : form.letter ≠ letter)
    (hyear : y ≤ 9999) (hday : Date.isValid ⟨y, m, d⟩ = true) (rest : List Char) :
    ofForm? form ((dayText y m d).toList ++ ((minuteText letter h min).toList ++ rest)) = none := by
  obtain ⟨letter', seconds, fraction⟩ := form
  rw [toList_minuteText]
  refine bind_eq_of_eq_some (date?_dayText hyear hday _) ?_
  cases letter' with
  | true =>
    obtain rfl : letter = false := Bool.eq_false_iff.2 hne.symm
    rfl
  | false =>
    obtain rfl : letter = true := Bool.eq_true_of_not_eq_false hne.symm
    rfl

/-- A day without a time of day is no time. -/
lemma ofForm?_day (form : WallForm) (hyear : y ≤ 9999)
    (hday : Date.isValid ⟨y, m, d⟩ = true) : ofForm? form (dayText y m d).toList = none := by
  obtain ⟨letter, seconds, fraction⟩ := form
  rw [← List.append_nil (dayText y m d).toList]
  refine bind_eq_of_eq_some (date?_dayText hyear hday _) ?_
  cases letter with
  | true => rfl
  | false => rfl

/-- A minute is read by the forms without seconds. -/
lemma ofForm?_minute {letter : Bool} (form : WallForm) (hyear : y ≤ 9999)
    (hday : Date.isValid ⟨y, m, d⟩ = true) (hh : h ≤ 23) (hmin : min ≤ 59) :
    ofForm? form ((dayText y m d).toList ++ (minuteText letter h min).toList) =
      if form.letter = letter ∧ form.seconds = false then wallTime? ⟨y, m, d⟩ h min 0 0
      else none := by
  rw [← List.append_nil (minuteText letter h min).toList]
  obtain ⟨letter', seconds, fraction⟩ := form
  by_cases hletter : letter' = letter
  · subst hletter
    rw [ofForm?_append ⟨letter', seconds, fraction⟩ hyear hday hh hmin]
    cases seconds <;> cases fraction <;> simp [char?, fraction?]
  · rw [ofForm?_of_ne ⟨letter', seconds, fraction⟩ hletter hyear hday]
    simp [hletter]

/-- A second is read by the forms with seconds. -/
lemma ofForm?_second (letter : Bool) (form : WallForm) (hyear : y ≤ 9999)
    (hday : Date.isValid ⟨y, m, d⟩ = true) (hh : h ≤ 23) (hmin : min ≤ 59) (hs : s ≤ 60) :
    ofForm? form ((dayText y m d).toList ++ ((minuteText letter h min).toList ++
      ':' :: (padded 2 s).toList)) =
      if form.letter = letter ∧ form.seconds = true then wallTime? ⟨y, m, d⟩ h min s 0
      else none := by
  obtain ⟨letter', seconds, fraction⟩ := form
  by_cases hletter : letter' = letter
  · subst hletter
    rw [ofForm?_append ⟨letter', seconds, fraction⟩ hyear hday hh hmin]
    have hsecond : (char? ':' (':' :: (padded 2 s).toList)).bind field? = some (s, []) := by
      rw [char?_cons, Option.bind_some, ← List.append_nil (padded 2 s).toList,
        field?_padded (by omega)]
    cases seconds with
    | true =>
      refine bind_eq_of_eq_some hsecond ?_
      cases fraction <;> simp [fraction?]
    | false => cases fraction <;> simp [fraction?]
  · rw [ofForm?_of_ne ⟨letter', seconds, fraction⟩ hletter hyear hday]
    simp [hletter]

/-- The fields of a time that are valid are read, with the second 60 as a leap second. -/
lemma wallTime?_eq (date : Date) (hh : h ≤ 23) (hmin : min ≤ 59) (hs : s ≤ 60) :
    wallTime? date h min s 0 = some (if s = 60
      then ⟨date.dayNumber * secondsPerDay + h * 3600 + min * 60 + 59, nanosPerSecond⟩
      else ⟨date.dayNumber * secondsPerDay + h * 3600 + min * 60 + s, 0⟩) := by
  rw [wallTime?, if_pos ⟨hh, hmin, hs⟩]
  dsimp only
  rw [Nat.zero_add]
  split <;> rfl

/-! ## All forms -/

/-- Digits in front of a dash are no number. -/
lemma isNumber_padded_dash (y : Nat) (rest : List Char) :
    isNumber ((padded 4 y).toList ++ '-' :: rest) = false := by
  have hdash : isDigit '-' = false := by decide
  obtain ⟨c, cs, hcs, hc⟩ := exists_padded 4 y
  simp [isNumber, hcs, ne_of_isDigit hc hdash, hdash]

/-- A short text with a dash behind its year is no number, and has no offset. -/
lemma parse?_of_dash {cs rest : List Char} (hcs : cs = (padded 4 y).toList ++ '-' :: rest)
    (hlength : cs.length < 20) :
    parse? cs = [wallTimeForm?, dayForm?, monthForm?].findSome? fun form => form cs := by
  have hnumber : ¬ isNumber cs = true := by
    rw [hcs, isNumber_padded_dash]
    exact Bool.false_ne_true
  have hoffset : offsetForm? cs = none := by
    refine Option.eq_none_iff_forall_ne_some.2 fun l hl => ?_
    exact absurd (length_of_offsetForm? l hl) (Nat.not_le.2 hlength)
  rw [parse?, if_neg hnumber, List.findSome?_cons, hoffset]

/-- What has none of the forms of a time is no time. -/
lemma wallTimeForm?_eq_none {cs : List Char} (h : ∀ form, ofForm? form cs = none) :
    wallTimeForm? cs = none := by
  simp [wallTimeForm?, wallForms, h]

/-- A padded number alone is read as the number. -/
lemma digits?_padded_whole (width n : Nat) :
    Numeral.digits? (padded width n).toList = some n := by
  obtain ⟨c, cs, hcs, -⟩ := exists_padded width n
  rw [digits?_eq_some (hcs ▸ List.cons_ne_nil _ _) fun _ => isDigit_of_mem_padded,
    ofDigits_padded]

/-- A number of fixed width is read as a year, if there are no more years than 32 bits count. -/
lemma int32?_padded (h : n ≤ 9999) : int32? (padded width n).toList = some (n : Int) := by
  have hsign : splitSign (padded width n).toList = (false, (padded width n).toList) :=
    splitSign_signText (fun _ hc => isDigit_of_mem_padded (List.mem_of_mem_head? hc)) false
  have hmin : Int32.minValue.toInt = -2147483648 := by decide
  have hmax : Int32.maxValue.toInt = 2147483647 := by decide
  unfold int32? int?
  rw [hsign]
  dsimp only
  rw [digits?_padded_whole]
  exact if_pos (by omega)

/-- A padded number within a bound is read as the number. -/
lemma nat?_padded {hi : Nat} (h : n ≤ hi) : nat? hi (padded width n).toList = some n := by
  have hdigits := digits?_padded_whole width n
  obtain ⟨c, cs, hcs, hc⟩ := exists_padded width n
  have hplus : c ≠ '+' := ne_of_isDigit hc (by decide)
  rw [hcs] at hdigits ⊢
  simp [nat?, hplus, hdigits, h]

/-- **A written year** is read as its first day. -/
theorem parse?_year (h : y ≤ 9999) (hday : Date.isValid ⟨y, 1, 1⟩ = true) :
    parse? (padded 4 y).toList = some (wall (.ofDate ⟨y, 1, 1⟩) (some .year)) := by
  obtain ⟨c, cs, hcs, hc⟩ := exists_padded 4 y
  have hhead : c ≠ '-' := ne_of_isDigit hc (by decide)
  have hall : (padded 4 y).toList.all isDigit = true :=
    List.all_eq_true.2 fun _ => isDigit_of_mem_padded
  have hnumber : isNumber (padded 4 y).toList = true := by
    rw [hcs] at hall ⊢
    simp [isNumber, hhead, hall]
  have hvalid : validDate? ⟨y, 1, 1⟩ = some ⟨y, 1, 1⟩ := if_pos hday
  rw [parse?, if_pos hnumber, numberForm?, if_pos (length_padded_year h)]
  refine bind_eq_of_eq_some (int32?_padded h) ?_
  exact bind_eq_of_eq_some hvalid rfl

/-- **A written month** is read as its first day. -/
theorem parse?_month (h : y ≤ 9999) (hm : m < 100) (hday : Date.isValid ⟨y, m, 1⟩ = true) :
    parse? ((padded 4 y).toList ++ '-' :: (padded 2 m).toList) =
      some (wall (.ofDate ⟨y, m, 1⟩) (some .month)) := by
  have hyear := length_padded_year h
  have hmonth := length_padded_two hm
  have hnone : date? ((padded 4 y).toList ++ '-' :: (padded 2 m).toList) = none := by
    rw [← date?_month h hm, List.append_nil]
  have hwall : wallTimeForm? ((padded 4 y).toList ++ '-' :: (padded 2 m).toList) = none := by
    refine wallTimeForm?_eq_none fun form => ?_
    rw [ofForm?, hnone]
    rfl
  have hwhole : dayForm? ((padded 4 y).toList ++ '-' :: (padded 2 m).toList) = none := by
    rw [dayForm?, hnone]
  have hdash : '-' ∉ (padded 4 y).toList := fun hc =>
    absurd (isDigit_of_mem_padded hc) (by decide)
  have hvalid : validDate? ⟨y, m, 1⟩ = some ⟨y, m, 1⟩ := if_pos hday
  have hsize : m ≤ UInt32.size - 1 := by
    have : UInt32.size = 4294967296 := rfl
    omega
  have hform : monthForm? ((padded 4 y).toList ++ '-' :: (padded 2 m).toList) =
      some (wall (.ofDate ⟨y, m, 1⟩) (some .month)) := by
    refine bind_eq_of_eq_some (Text.splitOnce_append hdash _) ?_
    refine (if_pos ⟨hyear, hmonth⟩).trans ?_
    refine bind_eq_of_eq_some (int32?_padded h) ?_
    refine bind_eq_of_eq_some (nat?_padded hsize) ?_
    exact bind_eq_of_eq_some hvalid rfl
  rw [parse?_of_dash rfl (by rw [List.length_append, List.length_cons, hyear, hmonth]; decide)]
  simp only [List.findSome?_cons, hwall, hwhole, hform]

/-- The characters of a day. -/
lemma length_dayText (h : y ≤ 9999) (hday : Date.isValid ⟨y, m, d⟩ = true) :
    (dayText y m d).toList.length = 10 := by
  obtain ⟨hm, hd⟩ := lt_of_isValid hday
  have hlist := toList_dayText y m d []
  rw [List.append_nil, List.append_nil] at hlist
  rw [hlist]
  simp only [List.length_append, List.length_cons, length_padded_year h, length_padded_two hm,
    length_padded_two hd]

/-- **A written day** is read as its midnight. -/
theorem parse?_day (h : y ≤ 9999) (hday : Date.isValid ⟨y, m, d⟩ = true) :
    parse? (dayText y m d).toList = some (wall (.ofDate ⟨y, m, d⟩) (some .day)) := by
  have hlist := toList_dayText y m d []
  rw [List.append_nil] at hlist
  have hwall : wallTimeForm? (dayText y m d).toList = none :=
    wallTimeForm?_eq_none fun form => ofForm?_day form h hday
  have hdate : date? (dayText y m d).toList = some (⟨y, m, d⟩, []) := by
    rw [← date?_dayText h hday, List.append_nil]
  have hform : dayForm? (dayText y m d).toList = some (wall (.ofDate ⟨y, m, d⟩) (some .day)) := by
    rw [dayForm?, hdate]
  rw [parse?_of_dash hlist (by rw [length_dayText h hday]; decide)]
  simp only [List.findSome?_cons, hwall, hform]

/-- Hours and minutes have six characters. -/
lemma length_minuteText {letter : Bool} (hh : h ≤ 23) (hmin : min ≤ 59) :
    (minuteText letter h min).toList.length = 6 := by
  have hlist := toList_minuteText letter h min []
  rw [List.append_nil, List.append_nil] at hlist
  have hhour := length_padded_two (Nat.lt_of_le_of_lt hh (by decide : 23 < 100))
  have hminute := length_padded_two (Nat.lt_of_le_of_lt hmin (by decide : 59 < 100))
  rw [hlist, List.length_cons, List.length_append, List.length_cons, hhour, hminute]

/-- **A written minute** is read as its first second. -/
theorem parse?_minute {letter : Bool} (hyear : y ≤ 9999) (hday : Date.isValid ⟨y, m, d⟩ = true)
    (hh : h ≤ 23) (hmin : min ≤ 59) :
    parse? ((dayText y m d).toList ++ (minuteText letter h min).toList) = some (wall
      ⟨Date.dayNumber ⟨y, m, d⟩ * secondsPerDay + h * 3600 + min * 60, 0⟩ (some .minute)) := by
  have hform : ∀ form, ofForm? form ((dayText y m d).toList ++ (minuteText letter h min).toList) =
      if form.letter = letter ∧ form.seconds = false then some
        ⟨Date.dayNumber ⟨y, m, d⟩ * secondsPerDay + h * 3600 + min * 60, 0⟩ else none := by
    intro form
    rw [ofForm?_minute form hyear hday hh hmin, wallTime?_eq _ hh hmin (Nat.zero_le _)]
    simp
  rw [parse?_of_dash (toList_dayText y m d _)
    (by rw [List.length_append, length_dayText hyear hday, length_minuteText hh hmin]; decide)]
  cases letter <;> simp [wallTimeForm?, wallForms, hform, WallForm.precision]

/-- **A written second** is read as itself, and the second 60 as a leap second. -/
theorem parse?_second {letter : Bool} (hyear : y ≤ 9999) (hday : Date.isValid ⟨y, m, d⟩ = true)
    (hh : h ≤ 23) (hmin : min ≤ 59) (hs : s ≤ 60)
    (hpoint : '.' ∉ (dayText y m d).toList ++ ((minuteText letter h min).toList ++
      ':' :: (padded 2 s).toList)) :
    parse? ((dayText y m d).toList ++ ((minuteText letter h min).toList ++
      ':' :: (padded 2 s).toList)) = some (wall (if s = 60
        then ⟨Date.dayNumber ⟨y, m, d⟩ * secondsPerDay + h * 3600 + min * 60 + 59, nanosPerSecond⟩
        else ⟨Date.dayNumber ⟨y, m, d⟩ * secondsPerDay + h * 3600 + min * 60 + s, 0⟩)
      (some .second)) := by
  have hform : ∀ form, ofForm? form _ = _ := fun form =>
    ofForm?_second letter form hyear hday hh hmin hs
  simp only [wallTime?_eq _ hh hmin hs] at hform
  have hsecond := length_padded_two (Nat.lt_of_le_of_lt hs (by decide : 60 < 100))
  rw [parse?_of_dash (toList_dayText y m d _) (by
    rw [List.length_append, List.length_append, List.length_cons, length_dayText hyear hday,
      length_minuteText hh hmin, hsecond]
    decide)]
  cases letter with
  | true => simp [wallTimeForm?, wallForms, hform, WallForm.precision, hpoint]
  | false => simp [wallTimeForm?, wallForms, hform, WallForm.precision]

end DateLiteral

/-! ## Dates as they are written -/

namespace WrittenDate

/-- The characters of written dates. -/
def isPart (c : Char) : Bool := isDigit c || ['-', ':', 'T', ' '].contains c

/-- A written date has only characters of dates. -/
lemma all_isPart_text (l : WrittenDate) : l.text.toList.all isPart = true := by
  have hpadded : ∀ width n, (Date.padded width n).toList.all isPart = true := fun width n =>
    List.all_eq_true.2 fun c hc => by rw [isPart, Date.isDigit_of_mem_padded hc, Bool.true_or]
  have hletter : ∀ letter : Bool, (if letter then "T" else " ").toList.all isPart = true := by
    decide
  cases l <;> simp [text, dayText, minuteText, hpadded, hletter, isPart]

/-- **What a written date is read as**: the time on the wall at which it begins, with the unit down
to which it is written. -/
theorem parse?_text {l : WrittenDate} (hl : l.Valid) :
    DateLiteral.parse? l.text.toList = some (.wall l.start (some l.unit)) := by
  have hpoint : '.' ∉ l.text.toList := fun hc =>
    absurd (List.all_eq_true.1 l.all_isPart_text _ hc) (by decide)
  obtain ⟨hyear, hday, hhour, hminute, hsecond⟩ := hl
  cases l with
  | year y =>
    have hy : y ≤ 9999 := Int.ofNat_le.1 hyear
    rw [text, DateLiteral.parse?_year hy hday]
    simp [start, unit, clock, firstDay, WallTime.ofDate, WallTime.ofDay]
  | month y m =>
    have hy : y ≤ 9999 := Int.ofNat_le.1 hyear
    have htext : (month y m).text.toList =
        (Date.padded 4 y).toList ++ '-' :: (Date.padded 2 m).toList := by simp [text]
    rw [htext, DateLiteral.parse?_month hy (lt_of_isValid hday).1 hday]
    simp [start, unit, clock, firstDay, WallTime.ofDate, WallTime.ofDay]
  | day y m d =>
    have hy : y ≤ 9999 := Int.ofNat_le.1 hyear
    rw [text, DateLiteral.parse?_day hy hday]
    simp [start, unit, clock, firstDay, WallTime.ofDate, WallTime.ofDay]
  | minute letter y m d h min =>
    have hy : y ≤ 9999 := Int.ofNat_le.1 hyear
    dsimp only [clock] at hhour hminute
    rw [text, String.toList_append, DateLiteral.parse?_minute hy hday hhour hminute]
    simp [start, unit, clock, firstDay]
  | second letter y m d h min s =>
    have hy : y ≤ 9999 := Int.ofNat_le.1 hyear
    have htext : (second letter y m d h min s).text.toList = (dayText y m d).toList ++
        ((minuteText letter h min).toList ++ ':' :: (Date.padded 2 s).toList) := by simp [text]
    dsimp only [clock] at hhour hminute hsecond
    rw [htext] at hpoint ⊢
    rw [DateLiteral.parse?_second hy hday hhour hminute hsecond hpoint]
    rfl

/-- The year is in front. -/
lemma exists_text_append (l : WrittenDate) : ∃ y rest, l.text = Date.padded 4 y ++ rest := by
  cases l with
  | year y => exact ⟨y, "", String.append_empty.symm⟩
  | month y m => exact ⟨y, _, String.append_assoc⟩
  | day y m d =>
    exact ⟨y, "-" ++ (Date.padded 2 m ++ ("-" ++ Date.padded 2 d)),
      by simp only [text, dayText, String.append_assoc]⟩
  | minute letter y m d h min =>
    exact ⟨y, "-" ++ (Date.padded 2 m ++ ("-" ++ (Date.padded 2 d ++ minuteText letter h min))),
      by simp only [text, dayText, String.append_assoc]⟩
  | second letter y m d h min s =>
    exact ⟨y, "-" ++ (Date.padded 2 m ++ ("-" ++ (Date.padded 2 d ++ (minuteText letter h min ++
      (":" ++ Date.padded 2 s))))), by simp only [text, dayText, String.append_assoc]⟩

/-- A number is at the end. -/
lemma exists_append_text (l : WrittenDate) :
    ∃ front width n, l.text = front ++ Date.padded width n := by
  cases l with
  | year y => exact ⟨"", 4, y, String.empty_append.symm⟩
  | month y m => exact ⟨_, 2, m, rfl⟩
  | day y m d => exact ⟨_, 2, d, rfl⟩
  | minute letter y m d h min => exact ⟨_, 2, min, String.append_assoc.symm⟩
  | second letter y m d h min s => exact ⟨_, 2, s, rfl⟩

/-- A written date has no blanks around it. -/
lemma trimChars_text (l : WrittenDate) : Text.trimChars l.text.toList = l.text.toList := by
  obtain ⟨y, rest, hfront⟩ := l.exists_text_append
  obtain ⟨front, width, n, hback⟩ := l.exists_append_text
  have hdrop : l.text.toList.dropWhile isBlank = l.text.toList := by
    rw [hfront, String.toList_append, DateLiteral.dropWhile_isBlank_padded]
  have hdrop' : l.text.toList.reverse.dropWhile isBlank = l.text.toList.reverse := by
    have hne : (Date.padded width n).toList.reverse ≠ [] := by
      obtain ⟨c, cs, hcs, -⟩ := Date.exists_padded width n
      rw [hcs, List.reverse_cons]
      exact List.append_ne_nil_of_right_ne_nil _ (List.cons_ne_nil _ _)
    rw [hback, String.toList_append, List.reverse_append]
    exact (QueryText.Stops.append hne fun c hc => not_isBlank_of_isDigit
      (Date.isDigit_of_mem_padded (List.mem_reverse.1 hc))).dropWhile
  rw [Text.trimChars, hdrop, hdrop', List.reverse_reverse]

/-- **What a written date stands for**: the time at which it begins, or the end of its unit where
rounding goes up. -/
theorem evaluate_text {l : WrittenDate} (hl : l.Valid) (now : Instant) (roundUp : Bool) (z : Zone) :
    DateExpression.evaluate l.text now roundUp z = (z.ofWall l.start).bind fun t =>
      (if roundUp then l.unit.ceil t z else .ok t).map ZonedTime.instant := by
  have hmissing : ∀ c, isPart c = false → c ∉ l.text.toList := fun c hc hmem =>
    Bool.false_ne_true (hc.symm.trans (List.all_eq_true.1 l.all_isPart_text c hmem))
  have hempty : l.text.toList.isEmpty = false := by
    obtain ⟨y, rest, hfront⟩ := l.exists_text_append
    obtain ⟨c, cs, hcs, -⟩ := Date.exists_padded 4 y
    rw [hfront, String.toList_append, hcs]
    rfl
  have hnow : Text.dropFront? ['n', 'o', 'w'] l.text.toList = none := by
    refine Option.eq_none_iff_forall_ne_some.2 fun rest hrest => ?_
    refine hmissing 'n' (by decide) ?_
    rw [Text.dropFront?_eq_some_iff.1 hrest]
    exact List.mem_cons_self
  have hbars : Text.splitOnce ['|', '|'] l.text.toList = none := by
    refine Option.eq_none_iff_forall_ne_some.2 fun ⟨before, tail⟩ hsplit => ?_
    refine hmissing '|' (by decide) ?_
    rw [Text.eq_of_splitOnce hsplit]
    simp
  have hread : DateLiteral.read z (String.ofList l.text.toList) =
      (z.ofWall l.start).map fun t => (t, some l.unit) := by
    rw [String.ofList_toList, DateLiteral.read, trimChars_text, parse?_text hl]
    show DateLiteral.resolve z (.wall l.start (some l.unit)) = _
    rw [DateLiteral.resolve]
    cases z.ofWall l.start with
    | error e => rfl
    | ok t => rfl
  unfold DateExpression.evaluate
  rw [trimChars_text]
  dsimp only
  rw [hempty, if_neg Bool.false_ne_true, DateExpression.evaluateTrimmed, hnow]
  dsimp only
  rw [hbars]
  dsimp only
  rw [DateExpression.single, hread]
  cases z.ofWall l.start with
  | error e => rfl
  | ok t => rfl

end WrittenDate

end Sift
