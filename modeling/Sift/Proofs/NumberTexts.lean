import Sift.Number.Numeral
import Sift.Proofs.ShortestDecimal
import Sift.Proofs.TokenTexts
import Sift.Text.Basic

/-!
# Texts of numbers

The text of a number is a sign, digits, and perhaps a point with more digits behind it. Such a text
is read as the decimal that it writes. For integers this is the integer itself, and for
floating-point numbers a decimal in the interval of the number, so that every finite number is read
back from its text, with the sign of zero.

## Main definitions

* `Sift.Numeral.Writes`: digits that write a decimal.

## Main results

* `Sift.Numeral.Writes.floating?`: what digits are read as.
* `Sift.Numeral.int64?_toString`: integers are read back from their texts.
* `Sift.Floating.exists_written_toText`: finite numbers are read back from their texts.
-/

set_option autoImplicit false

namespace Sift

/-- A text without blanks has none at its ends. -/
lemma Text.trimChars_eq_self {cs : List Char} (h : ∀ c ∈ cs, isBlank c = false) :
    trimChars cs = cs := by
  have hstops : ∀ {ds : List Char}, (∀ c ∈ ds, isBlank c = false) → ds.dropWhile isBlank = ds :=
    fun h => QueryText.Stops.dropWhile fun c hc => h c (List.mem_of_mem_head? hc)
  unfold trimChars
  rw [hstops h, hstops fun c hc => h c (List.mem_reverse.1 hc), List.reverse_reverse]

namespace Numeral

/-! ## Digits -/

/-- The codes of the digits. -/
lemma toNat_of_isDigit {c : Char} (h : isDigit c = true) : 48 ≤ c.toNat ∧ c.toNat ≤ 57 := by
  simp only [isDigit, Bool.and_eq_true, decide_eq_true_eq] at h
  exact h

/-- No digit is a blank. -/
lemma not_isBlank_of_isDigit {c : Char} (h : isDigit c = true) : isBlank c = false := by
  refine Bool.eq_false_iff.2 fun hblank => ?_
  have hpoints : ∀ k ∈ QueryText.blankPoints, k < 48 ∨ 57 < k := by decide
  have hc := toNat_of_isDigit h
  have hk := hpoints _ (QueryText.mem_blankPoints hblank)
  omega

/-- The decimal digits of a number are digits. -/
lemma isDigit_of_mem_decimalDigits {n : Nat} {c : Char} (h : c ∈ decimalDigits n) :
    isDigit c = true := by
  have hdigit := Nat.isDigit_of_mem_toDigits (by decide) (by decide) h
  exact hdigit

/-- Digits are read as the library reads them. -/
lemma ofDigits_eq (cs : List Char) : ofDigits cs = Nat.ofDigitChars 10 cs 0 := by
  rw [Nat.ofDigitChars_eq_foldl]
  unfold ofDigits digitValue
  simp only [Nat.mul_comm]

/-- The decimal digits of a number are read as the number. -/
lemma ofDigits_decimalDigits (n : Nat) : ofDigits (decimalDigits n) = n := by
  rw [ofDigits_eq]
  exact Nat.ofDigitChars_toDigits (by decide) (by decide)

/-- Zeros behind digits. -/
lemma ofDigits_append_zeros (cs : List Char) (k : Nat) :
    ofDigits (cs ++ List.replicate k '0') = ofDigits cs * 10 ^ k := by
  rw [ofDigits_eq, ofDigits_eq, Nat.ofDigitChars_append, Nat.ofDigitChars_replicate_zero,
    Nat.mul_comm]

/-- Zeros in front of digits. -/
lemma ofDigits_zeros_append (cs : List Char) (k : Nat) :
    ofDigits (List.replicate k '0' ++ cs) = ofDigits cs := by
  rw [ofDigits_eq, ofDigits_eq, Nat.ofDigitChars_append, Nat.ofDigitChars_replicate_zero,
    Nat.mul_zero]

/-- Digits alone are read as a number. -/
lemma digits?_eq_some {cs : List Char} (hne : cs ≠ []) (h : ∀ c ∈ cs, isDigit c = true) :
    digits? cs = some (ofDigits cs) := if_pos ⟨hne, List.all_eq_true.2 h⟩

/-- The sign of a negative number; other numbers have none. -/
def signText (negative : Bool) : List Char := if negative then ['-'] else []

/-- The sign in front of a digit is found again. -/
lemma splitSign_signText {cs : List Char} (h : ∀ c ∈ cs.head?, isDigit c = true)
    (negative : Bool) : splitSign (signText negative ++ cs) = (negative, cs) := by
  cases negative with
  | true => rfl
  | false =>
    show splitSign cs = _
    unfold splitSign
    split
    · exact absurd (h '-' rfl) (by decide)
    · exact absurd (h '+' rfl) (by decide)
    · rfl

/-! ## Decimals -/

/-- Digits that write a decimal: an integer, or an integer and a fraction with a point between
them. -/
inductive Writes : List Char → Nat → Int → Prop where
  /-- An integer. -/
  | integer {whole : List Char} (hne : whole ≠ []) (hwhole : ∀ c ∈ whole, isDigit c = true) :
      Writes whole (ofDigits whole) 0
  /-- An integer and a fraction. -/
  | fraction {whole fraction : List Char} (hne : whole ≠ [])
      (hwhole : ∀ c ∈ whole, isDigit c = true) (hfraction : ∀ c ∈ fraction, isDigit c = true) :
      Writes (whole ++ '.' :: fraction) (ofDigits (whole ++ fraction)) (-(fraction.length : Int))

namespace Writes

variable {cs : List Char} {n : Nat} {e : Int}

/-- A decimal text begins with a digit. -/
lemma exists_head (h : Writes cs n e) : ∃ c rest, cs = c :: rest ∧ isDigit c = true := by
  cases h with
  | integer hne hwhole =>
    obtain ⟨c, rest, rfl⟩ := List.exists_cons_of_ne_nil hne
    exact ⟨c, rest, rfl, hwhole c List.mem_cons_self⟩
  | fraction hne hwhole _ =>
    obtain ⟨c, rest, rfl⟩ := List.exists_cons_of_ne_nil hne
    exact ⟨c, _, rfl, hwhole c List.mem_cons_self⟩

/-- A decimal text has digits and a point only. -/
lemma isDigit_or_point (h : Writes cs n e) : ∀ c ∈ cs, isDigit c = true ∨ c = '.' := by
  cases h with
  | integer _ hwhole => exact fun c hc => .inl (hwhole c hc)
  | fraction _ hwhole hfraction =>
    intro c hc
    rcases List.mem_append.1 hc with hc | hc
    · exact .inl (hwhole c hc)
    · rcases List.mem_cons.1 hc with rfl | hc
      · exact .inr rfl
      · exact .inl (hfraction c hc)

/-- Where a run of digits ends. -/
lemma span_digits {ds rest : List Char} (hds : ∀ c ∈ ds, isDigit c = true)
    (hrest : QueryText.Stops isDigit rest) :
    (ds ++ rest).takeWhile isDigit = ds ∧ (ds ++ rest).dropWhile isDigit = rest := by
  refine ⟨QueryText.takeWhile_append hds hrest, ?_⟩
  rw [List.dropWhile_append_of_pos hds, hrest.dropWhile]

/-- A decimal text is read as what it writes. -/
lemma scientific? (h : Writes cs n e) : Numeral.scientific? cs = some (n, e) := by
  cases h with
  | integer hne hwhole =>
    obtain ⟨htake, hdrop⟩ := span_digits hwhole (.nil _)
    rw [List.append_nil] at htake hdrop
    unfold Numeral.scientific?
    dsimp only
    rw [htake, hdrop, if_neg (fun h => hne h.1), List.append_nil]
    rfl
  | @fraction whole fraction hne hwhole hfraction =>
    obtain ⟨htake, hdrop⟩ := span_digits hwhole (.cons (c := '.') (by decide) fraction)
    obtain ⟨htake', hdrop'⟩ := span_digits hfraction (.nil _)
    rw [List.append_nil] at htake' hdrop'
    unfold Numeral.scientific?
    dsimp only
    rw [htake, hdrop]
    show (if whole = [] ∧ fraction.takeWhile isDigit = [] then none
      else (exponent? (fraction.dropWhile isDigit)).map fun e =>
        (ofDigits (whole ++ fraction.takeWhile isDigit),
          e - ((fraction.takeWhile isDigit).length : Int))) = _
    rw [htake', hdrop', if_neg (fun h => hne h.1)]
    show some (_, 0 - (fraction.length : Int)) = _
    rw [Int.zero_sub]

/-- The words for numbers that are not finite do not start with a digit. -/
lemma word_ne (h : Writes cs n e) {w : String} (hw : w.toList.head?.any isDigit = false) :
    String.ofList (cs.map asciiLower) ≠ w := by
  obtain ⟨c, rest, rfl, hc⟩ := h.exists_head
  rintro rfl
  have hlower : asciiLower c = c := by
    have hc := toNat_of_isDigit hc
    unfold asciiLower
    refine if_neg fun h => ?_
    have hle : 65 ≤ c.toNat := h.1
    omega
  simp [hlower, hc] at hw

/-- **What digits are read as.** Digits behind a sign are read as the decimal that they write. -/
theorem floating? {f : BinaryFormat} (h : Writes cs n e) (negative : Bool) :
    (Numeral.floating? (signText negative ++ cs) : Option (Floating f)) =
      some (Floating.ofDecimal negative n e) := by
  have hsign : splitSign (signText negative ++ cs) = (negative, cs) := by
    obtain ⟨c, rest, rfl, hc⟩ := h.exists_head
    refine splitSign_signText (fun d hd => ?_) negative
    obtain rfl := Option.some.inj hd
    exact hc
  unfold Numeral.floating?
  rw [hsign]
  dsimp only
  rw [if_neg (not_or.2 ⟨h.word_ne (by decide), h.word_ne (by decide)⟩),
    if_neg (h.word_ne (by decide)), h.scientific?]
  rfl

/-- Digits behind a sign have no blanks at their ends. -/
lemma trimChars (h : Writes cs n e) (negative : Bool) :
    Text.trimChars (signText negative ++ cs) = signText negative ++ cs := by
  have hblank : ∀ c ∈ signText negative ++ cs, isBlank c = false := by
    intro c hc
    have hcases : isDigit c = true ∨ c = '.' ∨ c = '-' := by
      rcases List.mem_append.1 hc with hc | hc
      · cases negative with
        | true => exact .inr (.inr (List.mem_singleton.1 hc))
        | false => cases hc
      · exact (h.isDigit_or_point c hc).imp_right .inl
    rcases hcases with hc | rfl | rfl
    · exact not_isBlank_of_isDigit hc
    · decide
    · decide
  exact Text.trimChars_eq_self hblank

end Writes

/-- Integers are written by their digits. -/
lemma writes_decimalDigits (n : Nat) : Writes (decimalDigits n) n 0 := by
  have h : Writes (decimalDigits n) (ofDigits (decimalDigits n)) 0 :=
    .integer Nat.toDigits_ne_nil fun _ => isDigit_of_mem_decimalDigits
  rwa [ofDigits_decimalDigits] at h

/-- The layout of digits writes the decimal. -/
lemma writes_layPlain (c : Nat) (e : Int) :
    Writes (NumberStyle.text.layPlain (decimalDigits c) e).toList (c * 10 ^ e.toNat) (min e 0) := by
  have hvalue := ofDigits_decimalDigits c
  have hdigits : ∀ d ∈ decimalDigits c, isDigit d = true := fun _ => isDigit_of_mem_decimalDigits
  have hne : decimalDigits c ≠ [] := Nat.toDigits_ne_nil
  have hzeros : ∀ k, ∀ d ∈ List.replicate k '0', isDigit d = true := fun k d hd => by
    rw [List.eq_of_mem_replicate hd]
    decide
  generalize decimalDigits c = ds at *
  subst hvalue
  unfold NumberStyle.layPlain
  split
  · -- An integer, with zeros in place of the exponent.
    rename_i he
    have hwrites : Writes (ds ++ List.replicate e.toNat '0') _ 0 :=
      .integer (List.append_ne_nil_of_left_ne_nil hne _)
        (List.forall_mem_append.2 ⟨hdigits, hzeros e.toNat⟩)
    show Writes (String.ofList _ ++ "").toList _ _
    rw [String.append_empty, String.toList_ofList, Int.min_eq_right he]
    rwa [ofDigits_append_zeros] at hwrites
  · rename_i he
    have hnat : e.toNat = 0 := by omega
    rw [Int.min_eq_left (by omega), hnat, Nat.pow_zero, Nat.mul_one]
    dsimp only
    split
    · -- The point stands between the digits.
      have hwrites : Writes (ds.take (ds.length - (-e).toNat) ++
          '.' :: ds.drop (ds.length - (-e).toNat)) _ _ :=
        .fraction (fun h => (List.take_eq_nil_iff.1 h).elim (by omega) hne)
          (fun d hd => hdigits d (List.mem_of_mem_take hd))
          fun d hd => hdigits d (List.mem_of_mem_drop hd)
      have hlength : -((ds.drop (ds.length - (-e).toNat)).length : Int) = e := by
        rw [List.length_drop]
        omega
      rw [String.toList_ofList]
      rwa [List.take_append_drop, hlength] at hwrites
    · -- The digits follow the point, behind zeros.
      have hwrites : Writes (['0'] ++ '.' :: (List.replicate ((-e).toNat - ds.length) '0' ++ ds))
          _ _ :=
        .fraction (by decide) (hzeros 1) (List.forall_mem_append.2 ⟨hzeros _, hdigits⟩)
      have hlength : -((List.replicate ((-e).toNat - ds.length) '0' ++ ds).length : Int) = e := by
        rw [List.length_append, List.length_replicate]
        omega
      have hvalue : ofDigits (['0'] ++ (List.replicate ((-e).toNat - ds.length) '0' ++ ds)) =
          ofDigits ds := by
        calc ofDigits (['0'] ++ (List.replicate _ '0' ++ ds))
            = ofDigits (List.replicate _ '0' ++ ds) := ofDigits_zeros_append _ 1
          _ = ofDigits ds := ofDigits_zeros_append _ _
      rw [String.toList_ofList]
      rwa [hlength, hvalue] at hwrites

/-! ## Numbers -/

/-- A text that writes a decimal with a sign. -/
def Written (s : String) (negative : Bool) (n : Nat) (e : Int) : Prop :=
  ∃ cs, s.toList = signText negative ++ cs ∧ Writes cs n e

namespace Written

variable {s : String} {negative : Bool} {n : Nat} {e : Int}

/-- A number that is written out is read and rounded to the format. -/
theorem floating? {f : BinaryFormat} (h : Written s negative n e) :
    (Numeral.floating? s.toList : Option (Floating f)) =
      some (Floating.ofDecimal negative n e) := by
  obtain ⟨cs, hs, hcs⟩ := h
  rw [hs, hcs.floating?]

/-- A number that is written out has no blanks around it. -/
lemma trimChars (h : Written s negative n e) : Text.trimChars s.toList = s.toList := by
  obtain ⟨cs, hs, hcs⟩ := h
  rw [hs, hcs.trimChars]

/-- The text of a number starts with a digit or with the sign. -/
lemma head (h : Written s negative n e) : ∀ c ∈ s.toList.head?, isDigit c = true ∨ c = '-' := by
  obtain ⟨cs, hs, hcs⟩ := h
  rw [hs]
  intro c hc
  cases negative with
  | true => exact .inr (Option.some.inj hc).symm
  | false =>
    obtain ⟨d, rest, rfl, hd⟩ := hcs.exists_head
    obtain rfl := Option.some.inj hc
    exact .inl hd

end Written

/-- Integers are written by their digits behind their sign. -/
lemma toList_toString (n : Int) :
    (toString n).toList = signText (decide (n < 0)) ++ decimalDigits n.natAbs := by
  rw [Int.toString_eq_repr, Int.repr_eq_if]
  split
  · rename_i h
    have habs : n.toNat = n.natAbs := by omega
    rw [decide_eq_false (Int.not_lt.2 h), Nat.toList_repr, habs]
    rfl
  · rename_i h
    have habs : (-n).toNat = n.natAbs := by omega
    rw [decide_eq_true (Int.not_le.1 h), String.toList_append, Nat.toList_repr, habs]
    rfl

/-- Nothing but digits and a sign is written for integers. -/
lemma isDigit_or_minus_of_mem_toString {n : Int} {c : Char} (hc : c ∈ (toString n).toList) :
    isDigit c = true ∨ c = '-' := by
  rw [toList_toString] at hc
  rcases List.mem_append.1 hc with hc | hc
  · cases hsign : decide (n < 0) <;> rw [hsign] at hc
    · cases hc
    · exact .inr (List.mem_singleton.1 hc)
  · exact .inl (isDigit_of_mem_decimalDigits hc)

/-- The text of an integer writes it out. -/
lemma written_toString (n : Int) : Written (toString n) (decide (n < 0)) n.natAbs 0 :=
  ⟨_, toList_toString n, writes_decimalDigits _⟩

/-- Integers are read back from their texts. -/
theorem int64?_toString (n : Int64) : int64? (toString n.toInt).toList = some n := by
  have hsign : splitSign (signText (decide (n.toInt < 0)) ++ decimalDigits n.toInt.natAbs) =
      (decide (n.toInt < 0), decimalDigits n.toInt.natAbs) :=
    splitSign_signText (fun c hc => isDigit_of_mem_decimalDigits (List.mem_of_mem_head? hc)) _
  have hdigits : digits? (decimalDigits n.toInt.natAbs) = some _ :=
    digits?_eq_some Nat.toDigits_ne_nil fun _ => isDigit_of_mem_decimalDigits
  rw [ofDigits_decimalDigits] at hdigits
  have hvalue : (if decide (n.toInt < 0) = true then -(n.toInt.natAbs : Int) else n.toInt.natAbs) =
      n.toInt := by
    split <;> rename_i h <;> rw [decide_eq_true_eq] at h <;> omega
  unfold int64? int?
  rw [toList_toString, hsign]
  dsimp only
  rw [hdigits]
  dsimp only
  rw [hvalue, if_pos ⟨n.le_toInt, n.toInt_le⟩]
  show some (Int64.ofInt n.toInt) = _
  rw [Int64.ofInt_toInt]

end Numeral

namespace Floating

open Numeral

variable {f : BinaryFormat} {x : Floating f}

/-- The digits of an integer are read as the number to which the integer is rounded. -/
lemma ofDecimal_natAbs (n : Int) :
    (ofDecimal (decide (n < 0)) n.natAbs 0 : Floating f) = ofInt n := by
  have hbits : (0 : Int) ≤ (Nat.pow 2 f.exponentBits : Nat) := Int.natCast_nonneg _
  by_cases h0 : n = 0
  · subst h0
    rfl
  · unfold ofDecimal ofInt
    dsimp only
    rw [if_neg (by omega), if_neg (by omega), if_neg (by omega)]
    simp

/-- The text of a finite number writes a decimal that is read as the number. -/
lemma exists_written_toText (hf : f.Wide) (heven : f.hidden % 2 = 0)
    (hdigits : 2 * f.hidden ≤ 10 ^ 16) (hx : x.isFinite = true) :
    ∃ n e, Written x.toText x.negative n e ∧ ofDecimal x.negative n e = x := by
  have hsign : (if x.negative = true then "-" else "").toList = signText x.negative := by
    cases x.negative <;> rfl
  unfold toText render
  rw [isNaN_of_isFinite hx, hx]
  dsimp only
  by_cases h0 : x.magnitude.val = 0
  · refine ⟨0, 0, ⟨['0'], ?_, writes_decimalDigits 0⟩, ?_⟩
    · rw [if_neg (by decide), if_neg (by decide), if_pos h0, String.toList_append,
        String.toList_append, hsign, List.append_assoc]
      rfl
    · obtain ⟨negative, m, hm⟩ := x
      obtain rfl : m = 0 := h0
      rfl
  · refine ⟨_, _, ⟨_, ?_, writes_layPlain (x.shortest true).coefficient
      (x.shortest true).exponent⟩, ?_⟩
    · rw [if_neg (by decide), if_neg (by decide), if_neg h0, String.toList_append, hsign]
      rfl
    · refine ofDecimal_of_contains hf heven hx h0 (Int.min_le_right ..) ?_
      have hcontains := contains_shortest hdigits h0 true
      generalize x.shortest true = d at hcontains ⊢
      rcases Int.le_total 0 d.exponent with he | he
      · rw [Int.min_eq_right he, RoundingInterval.contains_integer he]
        exact hcontains
      · have hnat : d.exponent.toNat = 0 := by omega
        rw [Int.min_eq_left he, hnat, Nat.pow_zero, Nat.mul_one]
        exact hcontains

end Floating

end Sift
