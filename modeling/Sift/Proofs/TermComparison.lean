import Sift.Proofs.BoundComparison
import Sift.Proofs.NumberTexts
import Sift.Value.Order

/-!
# Terms and texts

A query for a term converts the literal to the type of the value with which it is compared. The
groups of an aggregation by terms hold the values with the same text. For most values both come to
the same: a text is converted to the value from which it was made. They differ for values of
different types that are taken for equal without having the same text, and for integers with the
digits of a number that is another integer.

## Main definitions

* `Sift.Value.Present`: the values of JSON documents other than null.
* `Sift.Value.Resembles`: values with different texts that are taken for equal.
* `Sift.Value.Lost`: values with the same text that are not taken for equal.

## Main results

* `Sift.Value.matchesTerm_iff`: a value equals a literal if both have the same text, unless the
  value is lost, and if it resembles the literal.
-/

set_option autoImplicit false

namespace Sift.Value

open Numeral

/-- The values of JSON documents other than null. -/
inductive Present : Value → Prop where
  | bool (b : Bool) : Present (.bool b)
  | long (n : Int64) : Present (.long n)
  | double {x : Double} (finite : x.isFinite = true) : Present (.double x)
  | str (s : String) : Present (.str s)
  | list (items : List Value) : Present (.list items)
  | map (members : List (String × Value)) : Present (.map members)

/-- Values that are taken for equal to a literal with another text. -/
inductive Resembles : Value → Value → Prop where
  /-- A boolean and an integer, of which zero is false. -/
  | flag (n : Int64) : Resembles (.bool (n != 0)) (.long n)
  /-- A boolean and its name in other letters or between blanks. -/
  | flagName {b : Bool} {s : String} (read : (str s).toBool? = some b)
      (other : s ≠ (bool b).toText) : Resembles (.bool b) (.str s)
  /-- An integer and a number that becomes it without its fraction, or at the end of the range. -/
  | truncated {n : Int64} {y : Double} (read : y.toInt64? = some n)
      (other : y.toText ≠ toString n.toInt) : Resembles (.long n) (.double y)
  /-- An integer and another numeral that is read as it. -/
  | integerNumeral {n : Int64} {s : String} (read : (str s).toLong? = some n)
      (other : s ≠ toString n.toInt) : Resembles (.long n) (.str s)
  /-- A number and an integer that is rounded to it. -/
  | rounded {x : Double} {n : Int64} (eq : (Floating.ofInt n.toInt).numEq x = true)
      (other : toString n.toInt ≠ x.toText) : Resembles (.double x) (.long n)
  /-- A number and another numeral that is read as it. -/
  | numeral {x y : Double} {s : String} (read : (str s).toDouble? = some y)
      (eq : y.numEq x = true) (other : s ≠ x.toText) : Resembles (.double x) (.str s)
  /-- The two zeros. -/
  | zero (negative : Bool) :
      Resembles (.double (Floating.zero negative)) (.double (Floating.zero (!negative)))

/-- Values that are not taken for equal to a literal with the same text: an integer and a number
with its digits that is another integer. The digits of a number are the fewest that are read as it,
and zeros take the place of the others. -/
inductive Lost : Value → Value → Prop where
  | intro {n : Int64} {y : Double} (same : toString n.toInt = y.toText)
      (read : y.toInt64? ≠ some n) : Lost (.long n) (.double y)

/-! ## Texts -/

/-- Sixteen digits reach beyond the mantissa of a double. -/
lemma digits_binary64 : 2 * binary64.hidden ≤ 10 ^ 16 := by decide +kernel

variable {k : Value} {s : String} {negative : Bool} {n : Nat} {e : Int}

/-- The text of a truth value begins with a letter. -/
lemma head_toText_bool (b : Bool) :
    (bool b).toText.toList.head? = some (if b then 't' else 'f') := by cases b <;> rfl

/-- The text of a list begins with a bracket. -/
lemma head_toText_list (items : List Value) : (list items).toText.toList.head? = some '[' := by
  simp [toText, toJson, Json.render]

/-- The text of an object begins with a brace. -/
lemma head_toText_map (members : List (String × Value)) :
    (map members).toText.toList.head? = some '\x7b' := by
  simp [toText, toJson, Json.render]

/-- The text of an integer writes it out. -/
lemma written_long (m : Int64) :
    Written (long m).toText (decide (m.toInt < 0)) m.toInt.natAbs 0 :=
  written_toString m.toInt

/-- The text of a double writes a number that is rounded to it. -/
lemma exists_written_double {x : Double} (hx : x.isFinite = true) :
    ∃ n e, Written (double x).toText x.negative n e ∧ Floating.ofDecimal x.negative n e = x :=
  Floating.exists_written_toText BinaryFormat.wide_binary64 even_hidden_binary64 digits_binary64 hx

/-- Only texts and numbers are written like numbers. -/
lemma literal_of_written (hk : k.Present) (h : Written k.toText negative n e) :
    k = str k.toText ∨ (∃ m, k = long m) ∨ ∃ y : Double, y.isFinite = true ∧ k = double y := by
  have hhead := h.head
  cases hk with
  | bool b =>
    rw [head_toText_bool] at hhead
    cases b <;> simp [isDigit] at hhead
  | long m => exact .inr (.inl ⟨m, rfl⟩)
  | @double y hy => exact .inr (.inr ⟨y, hy, rfl⟩)
  | str s => exact .inl rfl
  | list items =>
    rw [head_toText_list] at hhead
    exact absurd (hhead '[' rfl) (by decide)
  | map members =>
    rw [head_toText_map] at hhead
    exact absurd (hhead '\x7b' rfl) (by decide)

/-- Only texts and booleans are written like booleans. -/
lemma literal_of_toText_bool {b : Bool} (hk : k.Present) (h : (bool b).toText = k.toText) :
    k = str k.toText ∨ k = bool b := by
  have hnumber : ∀ {negative n e}, ¬ Written (bool b).toText negative n e := fun hwritten => by
    rcases literal_of_written (.bool b) hwritten with h | ⟨_, h⟩ | ⟨_, _, h⟩ <;> cases h
  have hhead := head_toText_bool b
  rw [h] at hhead
  cases hk with
  | bool c => cases b <;> cases c <;> first | exact .inr rfl | exact absurd h (by decide)
  | long m => exact absurd (h ▸ written_long m) hnumber
  | double hy =>
    obtain ⟨n, e, hwritten, -⟩ := exists_written_double hy
    exact absurd (h ▸ hwritten) hnumber
  | str s => exact .inl rfl
  | list items =>
    rw [head_toText_list] at hhead
    cases b <;> simp at hhead
  | map members =>
    rw [head_toText_map] at hhead
    cases b <;> simp at hhead

/-! ## Reading texts back -/

/-- The text of a truth value is read as it. -/
lemma toBool?_text_bool (b : Bool) : (str (bool b).toText).toBool? = some b := by
  cases b <;> decide

/-- The text of an integer is read as it. -/
lemma toLong?_text_long (m : Int64) : (str (long m).toText).toLong? = some m := by
  have hread : int64? (long m).toText.toList = some m := int64?_toString m
  simp only [toLong?, (written_long m).trimChars, hread]

/-- The text of a double is read as it. -/
lemma toDouble?_text_double {x : Double} (hx : x.isFinite = true) :
    (str (double x).toText).toDouble? = some x := by
  obtain ⟨n, e, hwritten, hread⟩ := exists_written_double hx
  rw [toDouble?, hwritten.trimChars, hwritten.floating?, hread]

/-- The text of an integer is read as its double. -/
lemma toDouble?_text_long (m : Int64) :
    (str (long m).toText).toDouble? = some (Floating.ofInt m.toInt) := by
  rw [toDouble?, (written_long m).trimChars, (written_long m).floating?, Floating.ofDecimal_natAbs]

/-! ## What a value is compared with -/

/-- A truth value is compared with that of the term. -/
lemma matchesTerm_bool (b : Bool) (k : Value) :
    (bool b).matchesTerm k = true ↔ k.toBool? = some b := by
  unfold matchesTerm coerceLike
  cases k.toBool? <;> simp [same]

/-- An integer is compared with that of the term. -/
lemma matchesTerm_long (m : Int64) (k : Value) :
    (long m).matchesTerm k = true ↔ k.toLong? = some m := by
  unfold matchesTerm coerceLike
  cases k.toLong? <;> simp [same]

/-- A double is compared with that of the term. -/
lemma matchesTerm_double (x : Double) (k : Value) :
    (double x).matchesTerm k = true ↔ ∃ y, k.toDouble? = some y ∧ y.numEq x = true := by
  unfold matchesTerm coerceLike
  cases k.toDouble? <;> simp [same]

/-- Values that are neither booleans nor numbers are compared by their texts. -/
lemma matchesTerm_of_texts {v : Value} (hv : v.sortRank = 1 ∨ v.sortRank = 3) (hk : k.Present) :
    v.matchesTerm k = true ↔ v.toText = k.toText := by
  have hnull : k.isNull = false := by cases hk <;> rfl
  cases v <;> simp [sortRank] at hv <;> simp [matchesTerm, hnull]

/-- A finite double equals itself. -/
lemma numEq_self {x : Double} (hx : x.isFinite = true) : x.numEq x = true := by
  simp [Floating.numEq, Floating.isNaN_of_isFinite hx]

/-- Equal numbers are the same number or zeros. -/
lemma eq_or_zeros_of_numEq {x y : Double} (h : y.numEq x = true) :
    y = x ∨ ∃ b, x = Floating.zero b ∧ y = Floating.zero (!b) := by
  have hsigned : y.signed = x.signed := by
    simp only [Floating.numEq, Bool.and_eq_true, beq_iff_eq] at h
    exact h.2
  by_cases h0 : y.signed = 0
  · have hzero : ∀ z : Double, z.signed = 0 → z = Floating.zero z.negative := by
      rintro ⟨negative, m, hm⟩ hz
      obtain rfl : m = 0 := by
        simp only [Floating.signed] at hz
        split at hz <;> omega
      rfl
    rw [hzero x (hsigned ▸ h0), hzero y h0]
    rcases Bool.eq_or_eq_not y.negative x.negative with heq | heq
    · exact .inl (by rw [heq])
    · exact .inr ⟨_, rfl, by rw [heq]⟩
  · exact .inl (eq_of_signed_eq hsigned h0)

/-! ## Same and different texts -/

variable {v : Value}

/-- A value equals a literal with the same text unless it is lost. -/
lemma matchesTerm_of_toText_eq (hv : v.Present) (hk : k.Present) (h : v.toText = k.toText) :
    v.matchesTerm k = true ↔ ¬ Lost v k := by
  cases hv with
  | bool b =>
    rw [matchesTerm_bool]
    refine iff_of_true ?_ nofun
    rcases literal_of_toText_bool hk h with hk | rfl
    · rw [hk, ← h]
      exact toBool?_text_bool b
    · rfl
  | long m =>
    rw [matchesTerm_long]
    rcases literal_of_written hk (h ▸ written_long m) with hk | ⟨m', rfl⟩ | ⟨y, -, rfl⟩
    · rw [hk, ← h]
      exact iff_of_true (toLong?_text_long m) nofun
    · have hm := toLong?_text_long m'
      rw [← h, toLong?_text_long] at hm
      exact iff_of_true hm.symm nofun
    · constructor
      · rintro hread ⟨-, hlost⟩
        exact hlost hread
      · exact fun hlost => Decidable.not_not.1 fun hread => hlost ⟨h, hread⟩
  | @double x hx =>
    obtain ⟨n, e, hwritten, -⟩ := exists_written_double hx
    rw [matchesTerm_double]
    refine iff_of_true ⟨x, ?_, numEq_self hx⟩ nofun
    have hread := toDouble?_text_double hx
    rw [h] at hread
    rcases literal_of_written hk (h ▸ hwritten) with hk | ⟨m, rfl⟩ | ⟨y, hy, rfl⟩
    · rw [hk]
      exact hread
    · rw [toDouble?_text_long] at hread
      exact hread
    · rw [toDouble?_text_double hy] at hread
      exact hread
  | str _ => exact iff_of_true ((matchesTerm_of_texts (.inl rfl) hk).2 h) nofun
  | list _ | map _ => exact iff_of_true ((matchesTerm_of_texts (.inr rfl) hk).2 h) nofun

/-- A value equals a literal with another text if it resembles it. -/
lemma matchesTerm_of_toText_ne (hv : v.Present) (hk : k.Present) (h : v.toText ≠ k.toText) :
    v.matchesTerm k = true ↔ Resembles v k := by
  constructor
  · intro hmatches
    cases hv with
    | bool b =>
      rw [matchesTerm_bool] at hmatches
      cases hk with
      | bool c => exact absurd (by rw [Option.some.inj hmatches]) h
      | long m =>
        obtain rfl := Option.some.inj hmatches
        exact .flag m
      | str s => exact .flagName hmatches (Ne.symm h)
      | double _ | list _ | map _ => cases hmatches
    | long m =>
      rw [matchesTerm_long] at hmatches
      cases hk with
      | long m' => exact absurd (by rw [Option.some.inj hmatches]) h
      | double _ => exact .truncated hmatches (Ne.symm h)
      | str s => exact .integerNumeral hmatches (Ne.symm h)
      | bool _ | list _ | map _ => cases hmatches
    | double _ =>
      obtain ⟨y, hread, heq⟩ := (matchesTerm_double _ k).1 hmatches
      cases hk with
      | long m =>
        obtain rfl := Option.some.inj hread
        exact .rounded heq (Ne.symm h)
      | double _ =>
        obtain rfl := Option.some.inj hread
        rcases eq_or_zeros_of_numEq heq with rfl | ⟨b, rfl, rfl⟩
        · exact absurd rfl h
        · exact .zero b
      | str s => exact .numeral hread heq (Ne.symm h)
      | bool _ | list _ | map _ => cases hread
    | str _ => exact absurd ((matchesTerm_of_texts (.inl rfl) hk).1 hmatches) h
    | list _ | map _ => exact absurd ((matchesTerm_of_texts (.inr rfl) hk).1 hmatches) h
  · intro hresembles
    cases hresembles with
    | flag m => exact (matchesTerm_bool _ _).2 rfl
    | flagName read _ => exact (matchesTerm_bool _ _).2 read
    | truncated read _ => exact (matchesTerm_long _ _).2 read
    | integerNumeral read _ => exact (matchesTerm_long _ _).2 read
    | rounded eq _ => exact (matchesTerm_double _ _).2 ⟨_, rfl, eq⟩
    | numeral read eq _ => exact (matchesTerm_double _ _).2 ⟨_, read, eq⟩
    | zero negative =>
      exact (matchesTerm_double _ _).2 ⟨_, rfl, by cases negative <;> decide +kernel⟩

/-- What resembles a literal has another text. -/
lemma Resembles.toText_ne (h : Resembles v k) : v.toText ≠ k.toText := by
  cases h with
  | flag m =>
    intro heq
    rcases literal_of_toText_bool (.long m) heq with h | h <;> cases h
  | flagName _ other | truncated _ other | integerNumeral _ other | rounded _ other
  | numeral _ _ other => exact Ne.symm other
  | zero negative => cases negative <;> decide +kernel

/-- A value that is lost has the text of the key. -/
lemma Lost.toText_eq (h : Lost v k) : v.toText = k.toText ∧ v ≠ .null := by
  cases h with
  | intro same _ => exact ⟨same, nofun⟩

/-- **Terms and texts.** A value equals a literal exactly if both have the same text and the value
is not lost, or if the value resembles the literal.

**Proof sketch.** The literal is converted to the type of the value. A literal with the text of the
value is converted to the value: texts are read back, and a literal of the same type is the value
itself, because it is read back from the same text. Only the digits of a number, which are the
fewest that are read as it, may be those of an integer that is not the number. -/
theorem matchesTerm_iff (hv : v.Present) (hk : k.Present) :
    v.matchesTerm k = true ↔ v.toText = k.toText ∧ ¬ Lost v k ∨ Resembles v k := by
  by_cases h : v.toText = k.toText
  · have hother : ¬ Resembles v k := fun hresembles => hresembles.toText_ne h
    rw [matchesTerm_of_toText_eq hv hk h]
    tauto
  · rw [matchesTerm_of_toText_ne hv hk h]
    tauto

/-- The digits of `2 ^ 60` are those of a larger integer. -/
example : Lost (.long 1152921504606847000) (.double (Floating.ofInt (2 ^ 60))) :=
  ⟨by decide +kernel, by decide +kernel⟩

end Sift.Value
