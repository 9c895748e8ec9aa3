import Sift.Proofs.IntervalStarts
import Sift.Proofs.NumberTexts
import Sift.Proofs.Sequencing
import Sift.Time.Expression

/-!
# What date expressions denote

The milliseconds of an instant, two bars and the step of an interval denote the instant that the
interval later comes, in the zone at hand. Four digits are an exception: they are a year, and no
milliseconds.

Whatever a date expression denotes is in the calendar's range, and beyond its seconds there is at
most a leap second. Milliseconds in 64 bits are therefore enough for it.

## Main definitions

* `Sift.Instant.Valid`: instants of the calendar.

## Main results

* `Sift.DateExpression.evaluate_anchored`: operations on digits.
* `Sift.DateExpression.evaluate_epoch`: milliseconds moved by an interval.
* `Sift.DateExpression.valid_of_evaluate`: expressions denote instants of the calendar.
-/

set_option autoImplicit false

namespace Sift

/-! ## Milliseconds moved by an interval -/

/-- A separator is found behind a text without its first character. -/
lemma Text.splitOnce_append {c : Char} {separator before : List Char} (h : c ∉ before)
    (tail : List Char) :
    splitOnce (c :: separator) (before ++ (c :: separator ++ tail)) = some (before, tail) := by
  induction before with
  | nil =>
    have hfound : dropFront? (c :: separator) (c :: separator ++ tail) = some tail :=
      dropFront?_eq_some_iff.2 rfl
    rw [List.nil_append, List.cons_append, splitOnce, ← List.cons_append, hfound]
  | cons d rest ih =>
    obtain ⟨hd, hrest⟩ := not_or.1 (mt List.mem_cons.2 h)
    have hmissing : ∀ cs, dropFront? (c :: separator) (d :: cs) = none := fun cs => if_neg hd
    rw [List.cons_append, splitOnce, hmissing, ih hrest]
    rfl

namespace DateLiteral

open Numeral

/-- The text of an integer is a number. -/
lemma isNumber_toString (n : Int) : isNumber (toString n).toList = true := by
  have hdigits : ∀ c ∈ decimalDigits n.natAbs, isDigit c = true :=
    fun _ => isDigit_of_mem_decimalDigits
  have hne : decimalDigits n.natAbs ≠ [] := Nat.toDigits_ne_nil
  have hdrop : (signText (decide (n < 0)) ++ decimalDigits n.natAbs).dropWhile (fun c => c = '-') =
      decimalDigits n.natAbs := by
    have hstops : (decimalDigits n.natAbs).dropWhile (fun c => c = '-') =
        decimalDigits n.natAbs := by
      refine QueryText.Stops.dropWhile fun c hc => decide_eq_false ?_
      rintro rfl
      exact absurd (hdigits _ (List.mem_of_mem_head? hc)) (by decide)
    cases decide (n < 0) with
    | true => exact hstops
    | false => exact hstops
  unfold isNumber
  rw [toList_toString, hdrop, List.all_eq_true.2 hdigits, Bool.and_true, Bool.not_eq_true',
    List.isEmpty_eq_false_iff]
  exact List.append_ne_nil_of_right_ne_nil _ hne

/-- Digits are read as milliseconds, unless they are four characters, which are a year. -/
lemma read_toString {z : Zone} {n : Int64} {t : Instant} (hlength : (toString n.toInt).length ≠ 4)
    (ht : Instant.ofMillis? n.toInt = some t) :
    read z (toString n.toInt) = .ok (z.localize t, none) := by
  have hlist : (toString n.toInt).toList.length ≠ 4 := by rwa [String.length_toList]
  unfold read
  rw [(written_toString n.toInt).trimChars]
  dsimp only
  rw [parse?, if_pos (isNumber_toString _), numberForm?, if_neg hlist, int64?_toString]
  dsimp only [bind, Option.bind]
  rw [ht]
  rfl

end DateLiteral

namespace DateExpression

open Numeral

variable {ctx : Context} {z : Zone} {i : Interval}

/-- Digits are gathered for the amount of a move. -/
lemma scan_digits {ds : List Char} (hds : ∀ c ∈ ds, isDigit c = true) (negative : Bool)
    (seen : List Char) (offset : Nat) (t : ZonedTime) (rest : List Char) :
    scan ctx (.moving negative seen) offset t (ds ++ rest) =
      scan ctx (.moving negative (ds.reverse ++ seen)) (offset + ds.length) t rest := by
  induction ds generalizing seen offset with
  | nil => rfl
  | cons d ds ih =>
    rw [List.cons_append, scan, if_pos (hds d List.mem_cons_self),
      ih fun c hc => hds c (List.mem_cons_of_mem _ hc)]
    simp only [List.reverse_cons, List.append_assoc, List.singleton_append, List.length_cons]
    rw [Nat.add_assoc, Nat.add_comm 1]

/-- The step of an interval is written by a sign, digits and the symbol of the unit. -/
lemma toList_step (hcount : 0 < i.count.toInt) :
    i.step.toList = '+' :: (decimalDigits i.count.toInt.natAbs ++ [i.unit.symbol]) := by
  have hsign : signText (decide (i.count.toInt < 0)) = [] := by
    rw [decide_eq_false (Int.not_lt.2 hcount.le)]
    rfl
  have hsymbol : i.unit.symbol.toString.toList = [i.unit.symbol] := String.toList_singleton _
  unfold Interval.step
  rw [String.toList_append, String.toList_append, toList_toString, hsign, hsymbol]
  rfl

/-- The step of an interval adds the interval. -/
lemma applyOps_step (hcount : 0 < i.count.toInt) (t : ZonedTime) :
    applyOps ctx t i.step.toList = i.unit.add t i.count.toInt ctx.zone := by
  have hdigits : ∀ c ∈ decimalDigits i.count.toInt.natAbs, isDigit c = true :=
    fun _ => isDigit_of_mem_decimalDigits
  have hsymbol : isDigit i.unit.symbol = false := by cases i.unit <;> rfl
  have hamount : ctx.amount ((decimalDigits i.count.toInt.natAbs).reverse ++ []) =
      .ok i.count.toInt := by
    have hne : (decimalDigits i.count.toInt.natAbs).reverse ≠ [] :=
      mt List.reverse_eq_nil_iff.1 Nat.toDigits_ne_nil
    have hvalue : ((i.count.toInt.natAbs : Nat) : Int) = i.count.toInt := by omega
    rw [List.append_nil, Context.amount, if_neg (mt List.isEmpty_iff.1 hne), List.reverse_reverse,
      ofDigits_decimalDigits]
    dsimp only
    rw [hvalue, if_pos i.count.toInt_le]
  have hplus : ∀ cs, scan ctx .idle 0 t ('+' :: cs) = scan ctx (.moving false []) 1 t cs :=
    fun _ => rfl
  rw [applyOps, toList_step hcount, hplus, scan_digits hdigits, scan, hsymbol,
    if_neg Bool.false_ne_true, Context.complete, hamount, DateUnit.ofSymbol?_symbol]
  dsimp only
  rw [if_neg Bool.false_ne_true]
  cases i.unit.add t i.count.toInt ctx.zone with
  | error e => rfl
  | ok x => rfl

/-- There are no blanks in the step of an interval. -/
lemma isBlank_step (hcount : 0 < i.count.toInt) : ∀ c ∈ i.step.toList, isBlank c = false := by
  have hsymbol : isBlank i.unit.symbol = false := by cases i.unit <;> decide
  intro c hc
  rw [toList_step hcount] at hc
  simp only [List.mem_append, List.mem_cons, List.not_mem_nil, or_false] at hc
  rcases hc with rfl | hc | rfl
  · decide
  · exact not_isBlank_of_isDigit (isDigit_of_mem_decimalDigits hc)
  · exact hsymbol

/-- **Operations on digits.** Digits, two bars and operations without blanks denote what the
operations make of what the digits denote. The present does not matter. -/
theorem evaluate_anchored {ops : String} (hops : ∀ c ∈ ops.toList, isBlank c = false) (n : Int)
    (now : Instant) (roundUp : Bool) (z : Zone) :
    evaluate (toString n ++ "||" ++ ops) now roundUp z =
      match DateLiteral.read z (toString n) with
      | .error e => .error e
      | .ok (t, _) =>
        (applyOps ⟨z, roundUp, toString n ++ "||" ++ ops⟩ t ops.toList).map ZonedTime.instant := by
  have htext : (toString n ++ "||" ++ ops).toList =
      (toString n).toList ++ ('|' :: ['|'] ++ ops.toList) := by
    rw [String.toList_append, String.toList_append, List.append_assoc]
    rfl
  have htrim : Text.trimChars (toString n ++ "||" ++ ops).toList =
      (toString n ++ "||" ++ ops).toList := by
    refine Text.trimChars_eq_self fun c hc => ?_
    simp only [htext, List.cons_append, List.nil_append, List.mem_append, List.mem_cons] at hc
    rcases hc with hc | rfl | rfl | hc
    · rcases isDigit_or_minus_of_mem_toString hc with hc | rfl
      · exact not_isBlank_of_isDigit hc
      · decide
    · decide
    · decide
    · exact hops c hc
  have hbar : '|' ∉ (toString n).toList := fun h =>
    absurd (isDigit_or_minus_of_mem_toString h) (by decide)
  have hnow : ∀ cs, Text.dropFront? ['n', 'o', 'w'] ((toString n).toList ++ cs) = none := by
    intro cs
    cases htext : (toString n).toList with
    | nil => exact absurd (htext ▸ DateLiteral.isNumber_toString n) nofun
    | cons c rest =>
      refine if_neg ?_
      rintro rfl
      exact absurd (isDigit_or_minus_of_mem_toString (htext ▸ List.mem_cons_self)) (by decide)
  rw [evaluate, htrim, htext, if_neg (by simp), evaluateTrimmed, hnow, Text.splitOnce_append hbar,
    ← htext, String.ofList_toList]
  dsimp only
  rw [String.ofList_toList]
  cases DateLiteral.read z (toString n) <;> rfl

/-- **Milliseconds moved by an interval.** Milliseconds, two bars and the step of an interval denote
the instant that the interval later comes, unless the milliseconds are read as a year. -/
theorem evaluate_epoch (hcount : 0 < i.count.toInt) {n : Int64} {t now : Instant}
    (hlength : (toString n.toInt).length ≠ 4) (ht : Instant.ofMillis? n.toInt = some t)
    (roundUp : Bool) :
    evaluate (toString n.toInt ++ "||" ++ i.step) now roundUp z =
      (i.unit.add (z.localize t) i.count.toInt z).map ZonedTime.instant := by
  rw [evaluate_anchored (isBlank_step hcount), DateLiteral.read_toString hlength ht]
  exact congrArg (Except.map ZonedTime.instant) (applyOps_step hcount _)

end DateExpression

/-! ## Instants of the calendar -/

namespace Instant

/-- The instant is in range and at most in the leap second after its second. -/
structure Valid (t : Instant) : Prop where
  range : inRange t.seconds = true
  fraction : t.nanos < 2 * nanosPerSecond

variable {t : Instant}

/-- An instant of whole milliseconds is valid. -/
lemma InMillis.valid (h : t.InMillis) : t.Valid where
  range := h.range
  fraction := by
    have := h.nanos_lt
    omega

/-- The milliseconds of such an instant fit in 64 bits. -/
lemma Valid.toInt_ofInt_millis (h : t.Valid) : (Int64.ofInt t.millis).toInt = t.millis := by
  have hrange := inRange_iff.1 h.range
  have hfraction := h.fraction
  unfold minSeconds maxSeconds at hrange
  unfold nanosPerSecond at hfraction
  refine Int64.toInt_ofInt_of_le ?_ ?_ <;> unfold millis <;> omega

end Instant

/-- Zones with a fixed distance from UTC are less than a day ahead of it or behind it. -/
lemma Zone.moderate_of_ofIdOrUtc [Environment] {id : Option String} {offset : Int}
    (h : ofIdOrUtc id = .fixed offset) : -86400 < offset ∧ offset < 86400 := by
  have hdistance : ∀ {cs n}, distance? cs = some n → 0 ≤ n ∧ n < 86400 := by
    intro cs n hn
    unfold distance? at hn
    split at hn
    · split at hn
      · rename_i hbounds
        obtain rfl := Option.some.inj hn
        omega
      · cases hn
    · cases hn
  unfold ofIdOrUtc at h
  cases hid : id.bind ofId? with
  | none =>
    rw [hid] at h
    obtain rfl := Zone.fixed.inj h
    decide
  | some z =>
    obtain ⟨name, -, hz⟩ := Option.bind_eq_some_iff.1 hid
    rw [hid] at h
    obtain rfl : z = .fixed offset := h
    unfold ofId? at hz
    dsimp only at hz
    split at hz
    · obtain rfl := Zone.fixed.inj (Option.some.inj hz)
      decide
    · split at hz
      · cases hz
      · obtain ⟨n, hn, heq⟩ := Option.map_eq_some_iff.1 hz
        obtain rfl := Zone.fixed.inj heq
        have := hdistance hn
        omega
      · obtain ⟨n, hn, heq⟩ := Option.map_eq_some_iff.1 hz
        obtain rfl := Zone.fixed.inj heq
        have := hdistance hn
        omega
      · obtain ⟨r, -, heq⟩ := Option.map_eq_some_iff.1 hz
        cases heq

/-- A time on the wall with at most a leap second stands for an instant of the calendar. -/
lemma Zone.valid_of_ofWall {z : Zone} {w : WallTime} {t : ZonedTime}
    (hw : w.nanos < 2 * nanosPerSecond) (h : z.ofWall w = .ok t) : t.instant.Valid := by
  obtain ⟨hrange, hnanos⟩ := range_of_ofWall h
  exact ⟨hrange, by omega⟩

namespace DateUnit

variable {u : DateUnit} {z : Zone} {n : Int}

/-- Addition on clocks adds no fraction of a second. -/
lemma nanos_of_wallAdd? {w w' : WallTime} (h : u.wallAdd? w n = some w') :
    w'.nanos ≤ w.nanos := by
  have hmonths : ∀ n, w.addMonths? n = some w' → w'.nanos ≤ w.nanos := by
    intro n h
    unfold WallTime.addMonths? at h
    dsimp only at h
    split at h
    · exact Nat.le_of_eq (congrArg WallTime.nanos (Option.some.inj h)).symm
    · cases h
  cases u with
  | year | month => exact hmonths _ h
  | week | day | hour | minute | second => exact WallTime.nanos_of_shift? h

/-- Shifting leads from one instant of the calendar to another one. -/
lemma valid_of_add {t x : ZonedTime} (ht : t.instant.Valid) (h : u.add t n z = .ok x) :
    x.instant.Valid := by
  have hfraction := ht.fraction
  unfold add at h
  split at h
  · split at h
    · rename_i i hi
      obtain rfl := Except.ok.inj h
      unfold Instant.shift? at hi
      dsimp only at hi
      split at hi
      · rename_i hrange
        obtain rfl := Option.some.inj hi
        exact ⟨hrange, Nat.lt_of_le_of_lt (shiftSeconds_snd_le _ _ _) hfraction⟩
      · cases hi
    · cases h
  · dsimp only at h
    split at h
    · cases h
    · split at h
      · rename_i w hw
        exact Zone.valid_of_ofWall (Nat.lt_of_le_of_lt (nanos_of_wallAdd? hw) hfraction) h
      · cases h

end DateUnit

/-- A number is bounded by a power of ten for its digits. -/
lemma Numeral.ofDigits_lt {cs : List Char} (h : ∀ c ∈ cs, isDigit c = true) :
    ofDigits cs < 10 ^ cs.length := by
  have hfold : ∀ n, cs.foldl (fun n c => n * 10 + digitValue c) n < (n + 1) * 10 ^ cs.length := by
    induction cs with
    | nil => simp
    | cons c rest ih =>
      intro n
      have hdigit : digitValue c ≤ 9 := by
        have hc := toNat_of_isDigit (h c List.mem_cons_self)
        show c.toNat - 48 ≤ 9
        omega
      have hrest := ih (fun c hc => h c (List.mem_cons_of_mem _ hc)) (n * 10 + digitValue c)
      calc rest.foldl (fun n c => n * 10 + digitValue c) (n * 10 + digitValue c)
          < (n * 10 + digitValue c + 1) * 10 ^ rest.length := hrest
        _ ≤ (n + 1) * 10 * 10 ^ rest.length := Nat.mul_le_mul_right _ (by omega)
        _ = (n + 1) * 10 ^ (rest.length + 1) := by rw [Nat.pow_succ', Nat.mul_assoc]
  exact (hfold 0).trans_eq (by omega)

namespace DateLiteral

variable {cs rest : List Char} {nanos : Nat}

/-- A fraction is less than a second. -/
lemma lt_of_fraction? (h : fraction? cs = some (nanos, rest)) : nanos < nanosPerSecond := by
  unfold fraction? at h
  split at h
  · rename_i after
    dsimp only at h
    split at h
    · cases h
    · obtain ⟨rfl, -⟩ := Prod.mk.inj (Option.some.inj h)
      have hdigits : ∀ c ∈ (after.takeWhile Numeral.isDigit).take 9, Numeral.isDigit c = true :=
        fun c hc => List.all_eq_true.1 List.all_takeWhile c (List.mem_of_mem_take hc)
      have hlength : ((after.takeWhile Numeral.isDigit).take 9).length ≤ 9 :=
        List.length_take_le _ _
      have hlt := Numeral.ofDigits_lt hdigits
      generalize (after.takeWhile Numeral.isDigit).take 9 = kept at hlength hlt ⊢
      calc Numeral.ofDigits kept * 10 ^ (9 - kept.length)
          < 10 ^ kept.length * 10 ^ (9 - kept.length) :=
            Nat.mul_lt_mul_of_pos_right hlt (Nat.pow_pos (by decide))
        _ = 10 ^ 9 := by rw [← Nat.pow_add, Nat.add_sub_cancel' hlength]
  · obtain ⟨rfl, -⟩ := Prod.mk.inj (Option.some.inj h)
    decide

/-- A time of day is at most in a leap second. -/
lemma lt_of_wallTime? {d : Date} {h m s : Nat} {w : WallTime} (hnanos : nanos < nanosPerSecond)
    (hw : wallTime? d h m s nanos = some w) : w.nanos < 2 * nanosPerSecond := by
  unfold wallTime? at hw
  dsimp only at hw
  split at hw
  · split at hw <;> obtain rfl := Option.some.inj hw <;> dsimp only <;> omega
  · cases hw

/-- The literal denotes an instant of the calendar, where it denotes one. -/
def Valid : DateLiteral → Prop
  | instant t => t.Valid
  | wall t _ => t.nanos < 2 * nanosPerSecond

/-- What holds of all outcomes of the second step holds of all outcomes of both steps. -/
lemma forall_bind {α β : Type} {o : Option α} {f : α → Option β} {P : β → Prop}
    (h : ∀ a, o = some a → ∀ b, f a = some b → P b) : ∀ b, (o >>= f) = some b → P b := by
  intro b hb
  obtain ⟨a, ha, hf⟩ := Option.bind_eq_some_iff.1 hb
  exact h a ha b hf

/-- What holds of all outcomes of both branches holds of all outcomes. -/
lemma forall_ite {β : Type} {c : Prop} [Decidable c] {x y : Option β} {P : β → Prop}
    (hx : ∀ b, x = some b → P b) (hy : ∀ b, y = some b → P b) :
    ∀ b, (if c then x else y) = some b → P b := by
  split
  · exact hx
  · exact hy

/-- A time that was read has the fraction of a second, or of a leap second. -/
lemma lt_of_ofForm? (form : WallForm) :
    ∀ w, ofForm? form cs = some w → w.nanos < 2 * nanosPerSecond := by
  have htime : ∀ {d h m s} {x : Nat × List Char}, x.1 < nanosPerSecond →
      ∀ w, (if x.2.isEmpty then wallTime? d h m s x.1 else none) = some w →
        w.nanos < 2 * nanosPerSecond :=
    fun hx => forall_ite (fun _ hw => lt_of_wallTime? hx hw) nofun
  have hsome : ∀ {x : Nat × List Char} {cs}, fraction? cs = some x → x.1 < nanosPerSecond :=
    fun h => lt_of_fraction? h
  have hnone : ∀ {x : Nat × List Char} {cs}, some (0, cs) = some x → x.1 < nanosPerSecond := by
    rintro x cs ⟨⟩
    exact (by decide : 0 < nanosPerSecond)
  -- Nothing matters but the fraction, which is the last thing to be read.
  unfold ofForm?
  repeat' first
    | exact htime (hsome ‹_›)
    | exact htime (hnone ‹_›)
    | refine forall_bind fun _ _ => ?_
    | refine forall_ite ?_ ?_

/-- A time with an offset that was read is valid. -/
lemma valid_of_offsetForm? : ∀ l, offsetForm? cs = some l → l.Valid := by
  have htime : ∀ {o : Option WallTime} {offset : Int},
      (∀ w, o = some w → w.nanos < 2 * nanosPerSecond) →
      ∀ l, (o >>= fun w => (w.instant? offset).map instant) = some l → l.Valid := by
    refine fun ho => forall_bind fun w hw l hl => ?_
    obtain ⟨t, ht, rfl⟩ := Option.map_eq_some_iff.1 hl
    unfold WallTime.instant? at ht
    split at ht
    · rename_i hrange
      obtain rfl := Option.some.inj ht
      exact ⟨hrange, ho w hw⟩
    · cases ht
  unfold offsetForm?
  repeat' first
    | exact htime fun _ hw => lt_of_wallTime? (lt_of_fraction? ‹_›) hw
    | refine forall_bind fun _ _ => ?_
    | refine forall_ite ?_ ?_
    | split

/-- A number that was read is valid. -/
lemma valid_of_numberForm? : ∀ l, numberForm? cs = some l → l.Valid := by
  unfold numberForm?
  refine forall_ite (forall_bind fun _ _ => forall_bind fun _ _ => ?_)
    (forall_bind fun _ _ => forall_bind fun t ht => ?_)
  · rintro l ⟨⟩
    exact (by decide : 0 < 2 * nanosPerSecond)
  · rintro l ⟨⟩
    exact (Instant.inMillis_of_ofMillis? ht).valid

/-- A day that was read is valid. -/
lemma valid_of_dayForm? : ∀ l, dayForm? cs = some l → l.Valid := by
  intro l hl
  unfold dayForm? at hl
  split at hl
  · obtain rfl := Option.some.inj hl
    exact (by decide : 0 < 2 * nanosPerSecond)
  · cases hl

/-- A month that was read is valid. -/
lemma valid_of_monthForm? : ∀ l, monthForm? cs = some l → l.Valid := by
  unfold monthForm?
  refine forall_bind fun _ _ => forall_ite
    (forall_bind fun _ _ => forall_bind fun _ _ => forall_bind fun _ _ => ?_) nofun
  rintro l ⟨⟩
  exact (by decide : 0 < 2 * nanosPerSecond)

/-- Written dates are those of the calendar. -/
lemma valid_of_parse? {l : DateLiteral} (h : parse? cs = some l) : l.Valid := by
  unfold parse? at h
  split at h
  · exact valid_of_numberForm? l h
  · obtain ⟨form, hform, hl⟩ := List.exists_of_findSome?_eq_some h
    simp only [List.mem_cons, List.not_mem_nil, or_false] at hform
    rcases hform with rfl | rfl | rfl | rfl
    · exact valid_of_offsetForm? l hl
    · obtain ⟨form, -, hl⟩ := List.exists_of_findSome?_eq_some hl
      obtain ⟨w, hw, rfl⟩ := Option.map_eq_some_iff.1 hl
      exact lt_of_ofForm? form w hw
    · exact valid_of_dayForm? l hl
    · exact valid_of_monthForm? l hl

/-- The anchor of an expression is a valid instant. -/
lemma valid_of_read {z : Zone} {text : String} {x : ZonedTime} {u : Option DateUnit}
    (h : read z text = .ok (x, u)) : x.instant.Valid := by
  unfold read at h
  dsimp only at h
  split at h
  · rename_i l hl
    have hvalid := valid_of_parse? hl
    cases l with
    | instant t =>
      obtain ⟨rfl, -⟩ := Prod.mk.inj (Except.ok.inj h)
      exact hvalid
    | wall w precision =>
      rw [resolve] at h
      split at h
      · cases h
      · rename_i hx
        obtain ⟨rfl, -⟩ := Prod.mk.inj (Except.ok.inj h)
        exact Zone.valid_of_ofWall hvalid hx
  · cases h

end DateLiteral

namespace DateExpression

variable {ctx : Context} {t x : ZonedTime}

/-- An operation leads from one instant of the calendar to another one. -/
lemma valid_of_complete (hdown : ctx.roundUp = false) (ht : t.instant.Valid) {pending : Pending}
    {offset : Nat} {unit : Option DateUnit} (h : ctx.complete pending offset unit t = .ok x) :
    x.instant.Valid := by
  cases pending with
  | idle => exact Except.ok.inj h ▸ ht
  | rounding =>
    cases unit with
    | none => cases h
    | some u =>
      rw [Context.complete, Context.round, hdown] at h
      exact (DateUnit.inMillis_of_floor h).valid
  | moving negative digits =>
    rw [Context.complete] at h
    split at h
    · cases h
    · cases unit with
      | none => cases h
      | some u => exact DateUnit.valid_of_add ht h

/-- Operations lead from one instant of the calendar to another one. -/
lemma valid_of_scan (hdown : ctx.roundUp = false) (ht : t.instant.Valid) {pending : Pending}
    {offset : Nat} {cs : List Char} (h : scan ctx pending offset t cs = .ok x) :
    x.instant.Valid := by
  induction cs generalizing pending offset t with
  | nil => exact valid_of_complete hdown ht h
  | cons c rest ih =>
    unfold scan at h
    cases pending with
    | idle =>
      dsimp only at h
      split_ifs at h
      · exact ih ht h
      · exact ih ht h
      · exact ih ht h
    | rounding =>
      dsimp only at h
      split at h
      · cases h
      · rename_i hx
        exact ih (valid_of_complete hdown ht hx) h
    | moving negative digits =>
      dsimp only at h
      split at h
      · exact ih ht h
      · split at h
        · cases h
        · rename_i hx
          exact ih (valid_of_complete hdown ht hx) h

/-- **Date expressions denote instants of the calendar**, if the present is one. -/
theorem valid_of_evaluate {text : String} {now u : Instant} {z : Zone} (hnow : now.Valid)
    (h : evaluate text now false z = .ok u) : u.Valid := by
  unfold evaluate at h
  dsimp only at h
  split at h
  · cases h
  · obtain ⟨x, hx, rfl⟩ := Sequencing.exists_ok_of_map h
    unfold evaluateTrimmed at hx
    split at hx
    · exact valid_of_scan rfl hnow hx
    · split at hx
      · split at hx
        · cases hx
        · rename_i hread
          exact valid_of_scan rfl (DateLiteral.valid_of_read hread) hx
      · unfold single at hx
        split at hx
        · cases hx
        · rename_i hread
          obtain rfl := Except.ok.inj hx
          exact DateLiteral.valid_of_read hread
        · rename_i hread
          obtain rfl := Except.ok.inj hx
          exact DateLiteral.valid_of_read hread

end DateExpression

end Sift
