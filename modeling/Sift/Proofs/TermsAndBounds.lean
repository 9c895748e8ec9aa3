import Sift.Proofs.IntegerCoercions
import Sift.Proofs.TermComparison

/-!
# Terms and bounds

A query for a term asks whether a value equals a literal, and a query for a range on which side of a
literal the value lies. Both convert the literal to the type of the value. Where this fails, a value
does not equal the term, but it is still compared with the bound, by the texts of both. For integers
this makes no difference: a literal that is written like an integer is always converted. Texts are
compared as texts in both queries.

## Main results

* `Sift.Value.toLong?_of_toText_eq`: a literal that is written like an integer is read as it, unless
  it is a floating-point number.
* `Sift.Value.matchesTerm_iff_compareBound_eq`: integers and texts equal the terms with which they
  compare as equal.
-/

set_option autoImplicit false

namespace Sift.Value

open Numeral

variable {l : Value} {n : Int64}

/-- Some character of the text is neither a digit nor a sign. -/
def HasLetter (s : String) : Prop := ∃ c ∈ s.toList, isDigit c = false ∧ c ≠ '-'

/-- No integer is written with a letter. -/
lemma not_hasLetter_toString (k : Int) : ¬ HasLetter (toString k) := by
  rintro ⟨c, hc, hdigit, hminus⟩
  rcases isDigit_or_minus_of_mem_toString hc with h | h
  · exact Bool.false_ne_true (hdigit.symm.trans h)
  · exact hminus h

/-- A text that begins with neither a digit nor a minus has a letter. -/
lemma hasLetter_of_head? {s : String} {c : Char} (h : s.toList.head? = some c)
    (hdigit : isDigit c = false) (hminus : c ≠ '-') : HasLetter s :=
  ⟨c, List.mem_of_mem_head? h, hdigit, hminus⟩

/-- Infinities and not-a-numbers are words. -/
lemma hasLetter_of_not_isFinite {f : BinaryFormat} {x : Floating f} (h : x.isFinite = false) :
    HasLetter x.toText := by
  have hword : ∀ negative : Bool, HasLetter ((if negative then "-" else "") ++ "inf") := by
    intro negative
    refine ⟨'i', ?_, rfl, by decide⟩
    cases negative <;> decide
  have hnotANumber : HasLetter "NaN" := ⟨'N', by decide, rfl, by decide⟩
  unfold Floating.toText Floating.render
  split
  · exact hnotANumber
  · dsimp only
    rw [h, Bool.not_false, if_pos rfl]
    exact hword x.negative

/-- **Literals with the digits of an integer.** A literal that is written like an integer of 64 bits
is read as the integer, unless it is a finite floating-point number. -/
theorem toLong?_of_toText_eq (h : l.toText = toString n.toInt) :
    l.isFloating = false ∧ l.toLong? = some n ∨
      (∃ x : Single, x.isFinite = true ∧ l = float x) ∨
      ∃ x : Double, x.isFinite = true ∧ l = double x := by
  have hword : ¬ HasLetter l.toText := h ▸ not_hasLetter_toString _
  have hread := toLong?_text_long n
  rw [toText, ← h] at hread
  cases l with
  | null => exact absurd (hasLetter_of_head? (c := 'n') rfl rfl (by decide)) hword
  | bool b =>
    refine absurd (hasLetter_of_head? (head_toText_bool b) ?_ ?_) hword <;> cases b <;> decide
  | int m =>
    have hm := toLong?_text_long m.toInt64
    rw [toText, Int32.toInt_toInt64] at hm
    exact .inl ⟨rfl, hm.symm.trans hread⟩
  | long m => exact .inl ⟨rfl, (toLong?_text_long m).symm.trans hread⟩
  | float x =>
    refine .inr (.inl ⟨x, ?_, rfl⟩)
    by_contra hx
    exact hword (hasLetter_of_not_isFinite (Bool.eq_false_iff.2 hx))
  | double x =>
    refine .inr (.inr ⟨x, ?_, rfl⟩)
    by_contra hx
    exact hword (hasLetter_of_not_isFinite (Bool.eq_false_iff.2 hx))
  | str s => exact .inl ⟨rfl, hread⟩
  | list items => exact absurd (hasLetter_of_head? (head_toText_list items) rfl (by decide)) hword
  | map members => exact absurd (hasLetter_of_head? (head_toText_map members) rfl (by decide)) hword

/-- A literal that is no integer of 64 bits has not the digits of one. -/
lemma toText_ne_of_toLong? (h : l.toLong? = none) (n : Int64) : l.toText ≠ toString n.toInt := by
  intro htext
  rcases toLong?_of_toText_eq htext with ⟨-, hread⟩ | ⟨x, hx, rfl⟩ | ⟨x, hx, rfl⟩
  · exact Option.some_ne_none n (hread.symm.trans h)
  · simp [toLong?, Floating.toInt64?, hx] at h
  · simp [toLong?, Floating.toInt64?, hx] at h

/-- A literal that is no integer of 32 bits has not the digits of one. -/
lemma toText_ne_of_toInt? (h : l.toInt? = none) (n : Int32) : l.toText ≠ toString n.toInt := by
  intro htext
  rw [← Int32.toInt_toInt64] at htext
  rcases toLong?_of_toText_eq htext with ⟨hl, hread⟩ | ⟨x, hx, rfl⟩ | ⟨x, hx, rfl⟩
  · exact Option.some_ne_none n (((toInt?_eq_some_iff_toLong? hl).2 hread).symm.trans h)
  · simp [toInt?, Floating.toInt32?, hx] at h
  · simp [toInt?, Floating.toInt32?, hx] at h

/-! ## Terms -/

/-- An integer of 32 bits is compared with that of the term. -/
lemma matchesTerm_int (n : Int32) (l : Value) :
    (int n).matchesTerm l = true ↔ l.toInt? = some n := by
  unfold matchesTerm coerceLike
  cases l.toInt? <;> simp [same]

/-- Values are level as texts if they have the same text. -/
lemma compareTexts_eq_iff {a b : Value} : a.compareTexts b = .eq ↔ a.toText = b.toText :=
  Std.compare_eq_iff_eq

/-- **Terms and bounds agree on integers and texts.** An integer of either width, or a text, equals
a literal other than null as a term exactly if it compares as equal with it as a bound.

**Proof sketch.** Where the literal is converted to the type of an integer, both compare the two
integers. Where it is not, the literal does not equal the integer as a term; then it has not the
digits of the integer either, which is what the bound is compared with. For texts both compare the
text of the literal. -/
theorem matchesTerm_iff_compareBound_eq {v l : Value} (hv : v.integer?.isSome ∨ v.text?.isSome)
    (hl : l.isNull = false) : v.matchesTerm l = true ↔ v.compareBound l = .eq := by
  cases v with
  | int n =>
    rw [matchesTerm_int, compareBound]
    cases hread : l.toInt? with
    | some m =>
      dsimp only
      rw [Int.compare_eq_eq, Int32.toInt_inj, Option.some.injEq, eq_comm]
    | none =>
      refine iff_of_false (Option.some_ne_none n).symm fun h => ?_
      exact toText_ne_of_toInt? hread n (compareTexts_eq_iff.1 h).symm
  | long n =>
    rw [matchesTerm_long, compareBound]
    cases hread : l.toLong? with
    | some m =>
      dsimp only
      rw [Int.compare_eq_eq, Int64.toInt_inj, Option.some.injEq, eq_comm]
    | none =>
      refine iff_of_false (Option.some_ne_none n).symm fun h => ?_
      exact toText_ne_of_toLong? hread n (compareTexts_eq_iff.1 h).symm
  | str s => simp [matchesTerm, compareBound, hl, toText]
  | null | bool _ | float _ | double _ | list _ | map _ => simp [integer?, text?] at hv

/-- A text with a fraction between blanks is the term 42 and compares as equal with it; a list with
this number is neither, and the text of the list is both. -/
theorem forty_two_agrees :
    ((long 42).matchesTerm (str " 42.9 ") = true ∧ (long 42).compareBound (str " 42.9 ") = .eq) ∧
      ¬ (int 42).matchesTerm (list [.long 42]) = true ∧
      (str "[42]").matchesTerm (list [.long 42]) = true := by
  have hlong := matchesTerm_iff_compareBound_eq (v := long 42) (l := str " 42.9 ") (.inl rfl) rfl
  have hint := matchesTerm_iff_compareBound_eq (v := int 42) (l := list [.long 42]) (.inl rfl) rfl
  have hstr :=
    matchesTerm_iff_compareBound_eq (v := str "[42]") (l := list [.long 42]) (.inr rfl) rfl
  have hmatches : (long 42).matchesTerm (str " 42.9 ") = true := by decide +kernel
  exact ⟨⟨hmatches, hlong.1 hmatches⟩, mt hint.1 (by decide +kernel), hstr.2 (by decide +kernel)⟩

end Sift.Value
