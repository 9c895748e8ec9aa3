import Mathlib.Data.List.DropRight
import Mathlib.Data.List.TakeWhile
import Sift.Proofs.CalendarCycles
import Sift.Proofs.DateExpressions
import Sift.Query.Predicate

/-!
# Dates in records

A text of a record that begins with the word for the present is no date. The other texts are
evaluated as date expressions, and the first instant of the calendar's range is taken for the
present, of which they should not speak. But blanks around an expression are dropped after the
beginning has been looked at: a text with blanks in front of the word is about the present, and is
taken for a date.

Of all other texts the same milliseconds are made, whatever the present is. Of the disguised ones
that is never true on a clock that keeps its distance from UTC: runs of the operations that start
four hundred years apart end so.

## Main definitions

* `Sift.Value.Timeless`: the milliseconds of a text do not depend on the present.
* `Sift.DateExpression.Disguised`: blanks in front of the word for the present.

## Main results

* `Sift.Value.recordDate_eq_long_iff`: when a text is a date, and of which milliseconds.
* `Sift.Value.timeless_or_disguised`: what is not timeless is disguised, and the other way round.
* `Sift.Value.blank_before_present`: a blank and the word for the present.
-/

set_option autoImplicit false

namespace Sift

/-! ## Texts about the present -/

/-- A text speaks of the present if it begins with the word. -/
lemma isRelative_iff {s : String} :
    Value.isRelative s = true ↔ ∃ rest, s.toList = ['n', 'o', 'w'] ++ rest := by
  unfold Value.isRelative
  rw [Option.isSome_iff_exists]
  exact exists_congr fun _ => Text.dropFront?_eq_some_iff

/-- Blanks behind a word do not change how a text begins. -/
lemma exists_trimChars_eq_iff {cs : List Char} :
    (∃ ops, Text.trimChars cs = ['n', 'o', 'w'] ++ ops) ↔
      ∃ rest, cs.dropWhile isBlank = ['n', 'o', 'w'] ++ rest := by
  constructor
  · rintro ⟨ops, hops⟩
    obtain ⟨tail, htail⟩ := List.rdropWhile_prefix isBlank (cs.dropWhile isBlank)
    have htrim : (cs.dropWhile isBlank).rdropWhile isBlank = Text.trimChars cs := rfl
    rw [htrim, hops, List.append_assoc] at htail
    exact ⟨_, htail.symm⟩
  · rintro ⟨rest, hrest⟩
    have hword : ['w', 'o', 'n'].dropWhile isBlank = ['w', 'o', 'n'] := by decide
    unfold Text.trimChars
    rw [hrest, List.reverse_append, List.dropWhile_append]
    split
    · exact ⟨[], congrArg List.reverse hword⟩
    · exact ⟨(rest.reverse.dropWhile isBlank).reverse, List.reverse_append⟩

namespace DateExpression

variable {s : String} {z : Zone}

/-- Blanks stand in front of the word for the present, and anything behind it. -/
def Disguised (s : String) : Prop := ∃ blanks rest, blanks ≠ [] ∧
  (∀ c ∈ blanks, isBlank c = true) ∧ s.toList = blanks ++ (['n', 'o', 'w'] ++ rest)

/-- The disguised texts are those that do not begin with the word before blanks are dropped, and
do after it. -/
lemma disguised_iff : Disguised s ↔ Value.isRelative s = false ∧
    ∃ ops, Text.trimChars s.toList = ['n', 'o', 'w'] ++ ops := by
  rw [exists_trimChars_eq_iff, ← Bool.not_eq_true, isRelative_iff]
  constructor
  · rintro ⟨blanks, rest, hne, hblanks, hs⟩
    refine ⟨?_, rest, ?_⟩
    · rintro ⟨rest', hrest'⟩
      obtain ⟨c, blanks, rfl⟩ := List.exists_cons_of_ne_nil hne
      have hfirst : c = 'n' := (List.cons.inj (hs.symm.trans hrest')).1
      have hblank := hblanks c List.mem_cons_self
      subst hfirst
      exact absurd hblank (by decide)
    · rw [hs, List.dropWhile_append_of_pos hblanks]
      rfl
  · rintro ⟨hplain, rest, hrest⟩
    refine ⟨s.toList.takeWhile isBlank, rest, ?_, fun c hc => List.mem_takeWhile_imp hc, ?_⟩
    · intro hnil
      refine hplain ⟨rest, ?_⟩
      have hwhole := List.takeWhile_append_dropWhile (p := isBlank) (l := s.toList)
      rw [hnil, hrest] at hwhole
      exact hwhole.symm
    · rw [← hrest, List.takeWhile_append_dropWhile]

/-- A text that does not speak of the present denotes the same at every time. -/
lemma evaluate_eq_of_plain (h : ∀ ops, Text.trimChars s.toList ≠ ['n', 'o', 'w'] ++ ops)
    (now now' : Instant) (roundUp : Bool) :
    evaluate s now roundUp z = evaluate s now' roundUp z := by
  have hword : Text.dropFront? ['n', 'o', 'w'] (Text.trimChars s.toList) = none :=
    Option.eq_none_iff_forall_ne_some.2 fun ops hops => h ops (Text.dropFront?_eq_some_iff.1 hops)
  unfold evaluate evaluateTrimmed
  dsimp only
  rw [hword]

/-- A text that speaks of the present denotes what its operations make of it. -/
lemma evaluate_of_present {ops : List Char}
    (h : Text.trimChars s.toList = ['n', 'o', 'w'] ++ ops) (now : Instant) (roundUp : Bool) :
    evaluate s now roundUp z = (applyOps ⟨z, roundUp, String.ofList (['n', 'o', 'w'] ++ ops)⟩
      (z.localize now) ops).map ZonedTime.instant := by
  unfold evaluate evaluateTrimmed
  dsimp only
  rw [h, Text.dropFront?_eq_some_iff.2 rfl]
  rfl

/-- Presents that are four hundred years apart lead to different milliseconds, if to any. -/
lemma millis_ne_of_present {ops : List Char} {offset : Int} {now t t' : Instant}
    (hops : Text.trimChars s.toList = ['n', 'o', 'w'] ++ ops)
    (h : evaluate s now false (.fixed offset) = .ok t)
    (h' : evaluate s now.nextCycle false (.fixed offset) = .ok t') : t'.millis ≠ t.millis := by
  rw [evaluate_of_present hops] at h h'
  obtain ⟨x, hx, rfl⟩ := Sequencing.exists_ok_of_map h
  obtain ⟨x', hx', rfl⟩ := Sequencing.exists_ok_of_map h'
  have hstart : ((Zone.fixed offset).localize now).CycleApart
      ((Zone.fixed offset).localize now.nextCycle) := rfl
  have hend : x'.instant = x.instant.nextCycle := scan_cycleApart hstart hx hx'
  rw [hend]
  unfold Instant.millis Instant.nextCycle cycleSeconds Date.cycleDays secondsPerDay
  dsimp only
  omega

end DateExpression

/-! ## Texts of records -/

namespace Value

variable {s : String} {z : Zone}

/-- The first instant of the calendar's range is in range. -/
lemma earliest_valid : Instant.earliest.Valid where
  range := by decide
  fraction := by decide

/-- **When a text of a record is a date**: it does not begin with the word for the present, and is
an expression at the first instant of the calendar's range. -/
theorem recordDate_eq_long_iff {m : Int64} : recordDate z (.str s) = .ok (.long m) ↔
    isRelative s = false ∧ ∃ t, DateExpression.evaluate s .earliest false z = .ok t ∧
      t.millis = m.toInt := by
  unfold recordDate
  dsimp only
  cases isRelative s with
  | true => simp
  | false =>
    rw [if_neg Bool.false_ne_true, resolveDate]
    cases hread : DateExpression.evaluate s .earliest false z with
    | error e =>
      have hnone : ∀ x, (.error e : Except DateError Instant) ≠ .ok x := fun _ => nofun
      cases hsettled : DateError.settle (.error e : Except DateError Instant) with
      | error e' => simp
      | ok left =>
        cases left with
        | none => simp
        | some t => exact absurd (DateError.settle_eq_some_iff.1 hsettled) (hnone t)
    | ok t =>
      have ht := (DateExpression.valid_of_evaluate earliest_valid hread).toInt_ofInt_millis
      constructor
      · intro h
        obtain rfl := Value.long.inj (Except.ok.inj h)
        exact ⟨rfl, t, rfl, ht.symm⟩
      · rintro ⟨-, t', ht', hm⟩
        obtain rfl := Except.ok.inj ht'
        rw [DateError.settle]
        dsimp only
        rw [hm, Int64.ofInt_toInt]

/-- Whatever milliseconds are made of a text, the expression denotes them at every time. -/
def Timeless (z : Zone) (s : String) : Prop := ∀ m : Int64, recordDate z (.str s) = .ok (.long m) →
  ∀ now : Instant, now.Valid →
    ∃ t, DateExpression.evaluate s now false z = .ok t ∧ t.millis = m.toInt

/-- **A text of a record is timeless, unless it is a disguised expression about the present.**
In every zone, the milliseconds that are made of any other text are those of the expression at
every time. On a clock that keeps its distance from UTC, a disguised text that is taken for a date
is never timeless.

**Proof sketch.** A text that is no date is timeless. A date does not begin with the word for the
present; so it is disguised, or it does not begin with the word without its blanks either, and then
its evaluation never looks at the present. For a disguised one, the instant that the clock reaches
from the first one of the range is four hundred years before the one that it reaches, if it does,
from four hundred years later. -/
theorem timeless_or_disguised (z : Zone) (s : String) :
    (Timeless z s ∨ DateExpression.Disguised s ∧ ∃ m, recordDate z (.str s) = .ok (.long m)) ∧
      ∀ offset, ¬ (Timeless (.fixed offset) s ∧ DateExpression.Disguised s ∧
        ∃ m, recordDate (.fixed offset) (.str s) = .ok (.long m)) := by
  refine ⟨?_, ?_⟩
  · by_cases hspeaks : ∃ ops, Text.trimChars s.toList = ['n', 'o', 'w'] ++ ops
    · by_cases hdate : ∃ m, recordDate z (.str s) = .ok (.long m)
      · obtain ⟨m, hm⟩ := hdate
        have hplain := (recordDate_eq_long_iff.1 hm).1
        exact .inr ⟨DateExpression.disguised_iff.2 ⟨hplain, hspeaks⟩, m, hm⟩
      · exact .inl fun m hm => absurd ⟨m, hm⟩ hdate
    · refine .inl fun m hm now _ => ?_
      obtain ⟨-, t, ht, htm⟩ := recordDate_eq_long_iff.1 hm
      rw [DateExpression.evaluate_eq_of_plain (fun ops hops => hspeaks ⟨ops, hops⟩) _ now] at ht
      exact ⟨t, ht, htm⟩
  · rintro offset ⟨htimeless, hdisguised, m, hm⟩
    obtain ⟨-, ops, hops⟩ := DateExpression.disguised_iff.1 hdisguised
    obtain ⟨-, t, ht, htm⟩ := recordDate_eq_long_iff.1 hm
    have hlater : Instant.earliest.nextCycle.Valid := ⟨by decide, by decide⟩
    obtain ⟨t', ht', htm'⟩ := htimeless m hm _ hlater
    exact DateExpression.millis_ne_of_present hops ht ht' (htm'.trans htm.symm)

/-- The present with a blank in front of it is a date of a record, the first instant of the
calendar's range. At the start of 1970 it is that start. -/
theorem blank_before_present :
    recordDate .utc (.str " now") = .ok (.long (-8334601228800000)) ∧
      DateExpression.evaluate " now" ⟨0, 0⟩ false .utc = .ok ⟨0, 0⟩ ∧
      (⟨0, 0⟩ : Instant).Valid ∧
      (⟨0, 0⟩ : Instant).millis ≠ (-8334601228800000 : Int64).toInt := by
  refine ⟨rfl, rfl, ⟨by decide, by decide⟩, by decide⟩

end Value

end Sift
