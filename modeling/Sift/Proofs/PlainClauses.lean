import Sift.Proofs.Grammar
import Sift.Proofs.NumberTexts
import Sift.Query.Predicate

/-!
# Plain values that find their own text

A clause with a plain value asks for a literal: a boolean or a number, if the value reads as one. A
record with the text of the value is compared with the text of the literal. Hence the text is found
unless it is a numeral whose number is written another way: with zeros in front or behind, with an
exponent, or with more digits than it takes to tell the number from all others.

## Main definitions

* `Sift.Value.Respelled`: a text is the numeral of a number that is written another way.

## Main results

* `Sift.Value.toText_ofLiteral_iff`: literals with the text that they are read from.
* `Sift.Value.Respelled.isNumeralChar`: only numerals are written another way.
* `Sift.Value.respelled_digits_iff`: digits are written another way if they start with a zero.
* `Sift.Query.ofText_plain`: the query of a field with a plain value.
* `Sift.Query.plain_value_finds_iff`: what a plain value finds.
-/

set_option autoImplicit false

namespace Sift

/-! ## Digits -/

namespace Numeral

/-- The code of a digit, in terms of its value. -/
lemma toNat_eq_of_isDigit {c : Char} (hc : isDigit c = true) :
    c.toNat = digitValue c + 48 ∧ digitValue c < 10 := by
  have hbounds := toNat_of_isDigit hc
  have hzero : '0'.toNat = 48 := rfl
  rw [digitValue, hzero]
  omega

/-- A digit is the text of its value. -/
lemma decimalDigits_digitValue {c : Char} (hc : isDigit c = true) :
    decimalDigits (digitValue c) = [c] := by
  obtain ⟨hvalue, hlt⟩ := toNat_eq_of_isDigit hc
  have hdigit : Nat.digitChar (digitValue c) = c := by
    rw [← Char.toNat_inj, Nat.toNat_digitChar_of_lt_ten hlt]
    omega
  rw [decimalDigits, Nat.toDigits_of_lt_base hlt, hdigit]

/-- A digit behind a number that is not zero is one more digit of it. -/
lemma decimalDigits_snoc {n : Nat} (hn : 0 < n) {c : Char} (hc : isDigit c = true) :
    decimalDigits (n * 10 + digitValue c) = decimalDigits n ++ [c] := by
  rw [← decimalDigits_digitValue hc, decimalDigits, decimalDigits, decimalDigits,
    Nat.toDigits_append_toDigits (by decide) hn (toNat_eq_of_isDigit hc).2, Nat.mul_comm]

/-- Digits that do not start with a zero are those of the number that they write. -/
lemma decimalDigits_ofDigits {c : Char} (hzero : c ≠ '0') {cs : List Char}
    (hcs : ∀ d ∈ c :: cs, isDigit d = true) : decimalDigits (ofDigits (c :: cs)) = c :: cs := by
  rw [List.forall_mem_cons] at hcs
  obtain ⟨hc, hcs⟩ := hcs
  have hpos : 0 < digitValue c := by
    have hne : c.toNat ≠ '0'.toNat := mt Char.toNat_inj.1 hzero
    have hzero : '0'.toNat = 48 := rfl
    have := toNat_eq_of_isDigit hc
    omega
  have hmore (before : List Char) (n : Nat) (hn : 0 < n) (hbefore : decimalDigits n = before) :
      decimalDigits (cs.foldl (fun n d => n * 10 + digitValue d) n) = before ++ cs := by
    induction cs generalizing before n with
    | nil => rw [List.foldl_nil, List.append_nil, hbefore]
    | cons d cs ih =>
      rw [List.forall_mem_cons] at hcs
      rw [List.foldl_cons, ih hcs.2 _ _ (by omega) (decimalDigits_snoc hn hcs.1), hbefore,
        List.append_assoc, List.singleton_append]
  have hfirst : 0 * 10 + digitValue c = digitValue c := by omega
  rw [ofDigits, List.foldl_cons, hfirst, hmore _ _ hpos (decimalDigits_digitValue hc),
    List.singleton_append]

/-- A number has no more digits than it takes to write it. -/
lemma length_decimalDigits_ofDigits_le {c : Char} {cs : List Char}
    (hcs : ∀ d ∈ c :: cs, isDigit d = true) :
    (decimalDigits (ofDigits (c :: cs))).length ≤ (c :: cs).length := by
  induction cs generalizing c with
  | nil =>
    have hvalue : ofDigits [c] = digitValue c := by
      rw [ofDigits, List.foldl_cons, List.foldl_nil, Nat.zero_mul, Nat.zero_add]
    rw [hvalue, decimalDigits_digitValue (hcs c List.mem_cons_self)]
  | cons d cs ih =>
    by_cases hzero : c = '0'
    · subst hzero
      have hvalue : ofDigits ('0' :: d :: cs) = ofDigits (d :: cs) := ofDigits_zeros_append _ 1
      rw [hvalue]
      exact Nat.le_succ_of_le (ih fun e he => hcs e (List.mem_cons_of_mem _ he))
    · rw [decimalDigits_ofDigits hzero hcs]

/-- Digits are those of the number that they write if they have no zero in front. -/
lemma decimalDigits_ofDigits_iff {c : Char} {cs : List Char}
    (hcs : ∀ d ∈ c :: cs, isDigit d = true) :
    decimalDigits (ofDigits (c :: cs)) = c :: cs ↔ (c = '0' → cs = []) := by
  constructor
  · rintro h rfl
    cases cs with
    | nil => rfl
    | cons d cs =>
      have hvalue : ofDigits ('0' :: d :: cs) = ofDigits (d :: cs) := ofDigits_zeros_append _ 1
      have hle := length_decimalDigits_ofDigits_le fun e he => hcs e (List.mem_cons_of_mem _ he)
      rw [← hvalue, h] at hle
      exact absurd hle (Nat.not_succ_le_self _)
  · intro h
    by_cases hzero : c = '0'
    · obtain rfl := hzero
      obtain rfl := h rfl
      rfl
    · exact decimalDigits_ofDigits hzero hcs

/-! ## The characters of numerals -/

/-- The characters of numerals: digits, the point, signs and the marks of exponents. -/
def isNumeralChar (c : Char) : Bool :=
  isDigit c || c = '.' || c = '+' || c = '-' || c = 'e' || c = 'E'

/-- Digits may be in a number. -/
lemma isNumeralChar_of_isDigit {c : Char} (h : isDigit c = true) : isNumeralChar c = true := by
  simp [isNumeralChar, h]

/-- Digits that are read may be in a number. -/
lemma isNumeralChar_of_digits? {cs : List Char} {n : Nat} (h : digits? cs = some n) :
    ∀ c ∈ cs, isNumeralChar c = true := by
  rw [digits?, Option.ite_none_right_eq_some] at h
  exact fun c hc => isNumeralChar_of_isDigit (List.all_eq_true.1 h.1.2 c hc)

/-- A sign is a character of numerals. -/
lemma isNumeralChar_of_splitSign {cs : List Char}
    (h : ∀ c ∈ (splitSign cs).2, isNumeralChar c = true) : ∀ c ∈ cs, isNumeralChar c = true := by
  unfold splitSign at h
  split at h
  · exact List.forall_mem_cons.2 ⟨by decide, h⟩
  · exact List.forall_mem_cons.2 ⟨by decide, h⟩
  · exact h

/-- The characters of an exponent may be in a number. -/
lemma isNumeralChar_of_exponent? {cs : List Char} {e : Int} (h : exponent? cs = some e) :
    ∀ c ∈ cs, isNumeralChar c = true := by
  cases cs with
  | nil => exact nofun
  | cons c rest =>
    rw [exponent?, Option.ite_none_right_eq_some] at h
    obtain ⟨hmark, h⟩ := h
    have hc : isNumeralChar c = true := by rcases hmark with rfl | rfl <;> decide
    dsimp only at h
    cases hn : digits? (splitSign rest).2 with
    | none =>
      rw [hn] at h
      cases h
    | some n =>
      exact List.forall_mem_cons.2 ⟨hc, isNumeralChar_of_splitSign (isNumeralChar_of_digits? hn)⟩

/-- Characters in front are digits up to the first one that is none. -/
lemma isNumeralChar_of_dropWhile {cs : List Char}
    (h : ∀ c ∈ cs.dropWhile isDigit, isNumeralChar c = true) :
    ∀ c ∈ cs, isNumeralChar c = true := by
  rw [← List.takeWhile_append_dropWhile (p := isDigit) (l := cs), List.forall_mem_append]
  have htake := List.all_takeWhile (p := isDigit) (l := cs)
  exact ⟨fun c hc => isNumeralChar_of_isDigit (List.all_eq_true.1 htake c hc), h⟩

/-- Decimals consist of the characters of numerals. -/
lemma isNumeralChar_of_scientific? {cs : List Char} {p : Nat × Int}
    (h : scientific? cs = some p) : ∀ c ∈ cs, isNumeralChar c = true := by
  refine isNumeralChar_of_dropWhile ?_
  unfold scientific? at h
  dsimp only at h
  split at h
  · rename_i more hmore
    obtain ⟨e, he, -⟩ := Option.map_eq_some_iff.1 (Option.ite_none_left_eq_some.1 h).2
    rw [hmore, List.forall_mem_cons]
    exact ⟨by decide, isNumeralChar_of_dropWhile (isNumeralChar_of_exponent? he)⟩
  · obtain ⟨e, he, -⟩ := Option.map_eq_some_iff.1 (Option.ite_none_left_eq_some.1 h).2
    exact isNumeralChar_of_exponent? he

/-- A text that is read as a finite number consists of the characters of numerals. -/
lemma isNumeralChar_of_floating? {cs : List Char} {x : Double} (h : floating? cs = some x)
    (hx : x.isFinite = true) : ∀ c ∈ cs, isNumeralChar c = true := by
  refine isNumeralChar_of_splitSign ?_
  have hinfinity (b : Bool) : (Floating.infinity b : Double).isFinite = false := by
    cases b <;> decide +kernel
  have hnan (b : Bool) : (Floating.notANumber b : Double).isFinite = false := by
    cases b <;> decide +kernel
  unfold floating? at h
  dsimp only at h
  split at h
  · obtain rfl := Option.some.inj h
    rw [hinfinity] at hx
    cases hx
  · split at h
    · obtain rfl := Option.some.inj h
      rw [hnan] at hx
      cases hx
    · obtain ⟨p, hp, -⟩ := Option.map_eq_some_iff.1 h
      exact isNumeralChar_of_scientific? hp

end Numeral

/-! ## Literals -/

namespace Value

open Numeral

/-- A text is read as a number: an integer of 64 bits, or else a finite double. -/
inductive ReadsNumber (s : String) : Value → Prop where
  /-- An integer. -/
  | integer {n : Int64} (read : int64? s.toList = some n) : ReadsNumber s (.long n)
  /-- Another number. Words without a digit are none. -/
  | decimal {x : Double} (noInteger : int64? s.toList = none)
      (digit : s.toList.any isDigit = true) (read : floating? s.toList = some x)
      (finite : x.isFinite = true) : ReadsNumber s (.double x)

/-- A text is the numeral of a number that is written another way. -/
def Respelled (s : String) : Prop := ∃ v, ReadsNumber s v ∧ v.toText ≠ s

/-- A text that is read as a number is the literal of this number. -/
lemma ReadsNumber.ofLiteral_eq {s : String} {v : Value} (h : ReadsNumber s v) :
    ofLiteral s = v := by
  have hword {w : String} (hinteger : int64? w.toList = none)
      (hdigit : w.toList.any isDigit = false) : s ≠ w := by
    rintro rfl
    cases h with
    | integer read =>
      rw [hinteger] at read
      cases read
    | decimal _ digit _ _ =>
      rw [hdigit] at digit
      cases digit
  rw [ofLiteral, if_neg (hword (by decide) (by decide)), if_neg (hword (by decide) (by decide))]
  dsimp only
  cases h with
  | integer read => rw [read]
  | decimal noInteger digit read finite =>
    rw [noInteger, read]
    exact if_pos (by rw [digit, finite]; rfl)

/-- The literal of a text that is read as no number has this text. -/
lemma readsNumber_or_toText_eq (s : String) :
    ReadsNumber s (ofLiteral s) ∨ (ofLiteral s).toText = s := by
  unfold ofLiteral
  split
  · rename_i htrue
    exact .inr htrue.symm
  split
  · rename_i hfalse
    exact .inr hfalse.symm
  dsimp only
  split
  · rename_i hread
    exact .inl (.integer hread)
  · rename_i hnone
    split
    · rename_i hread
      split
      · rename_i hnumber
        rw [Bool.and_eq_true] at hnumber
        exact .inl (.decimal hnone hnumber.1 hread hnumber.2)
      · exact .inr rfl
    · exact .inr rfl

/-- A literal is printed as the text that it is read from, unless this is the numeral of a number
that is written another way. -/
theorem toText_ofLiteral_iff (s : String) : (ofLiteral s).toText = s ↔ ¬ Respelled s := by
  constructor
  · rintro hsame ⟨v, hv, hother⟩
    rw [hv.ofLiteral_eq] at hsame
    exact hother hsame
  · intro h
    rcases readsNumber_or_toText_eq s with hread | hsame
    · exact Decidable.not_not.1 fun hother => h ⟨_, hread, hother⟩
    · exact hsame

/-- No literal is null. -/
lemma isNull_ofLiteral (s : String) : (ofLiteral s).isNull = false := by
  unfold ofLiteral
  dsimp only
  repeat' split
  all_goals rfl

/-- A text equals the literal that it is read as, unless it is the numeral of a number that is
written another way. -/
lemma matchesTerm_ofLiteral_iff (s : String) :
    (str s).matchesTerm (ofLiteral s) = true ↔ ¬ Respelled s := by
  have hmatch : (str s).matchesTerm (ofLiteral s) =
      (!(ofLiteral s).isNull && s == (ofLiteral s).toText) := rfl
  rw [← toText_ofLiteral_iff, hmatch, isNull_ofLiteral, Bool.not_false, Bool.true_and, beq_iff_eq]
  exact eq_comm

namespace Respelled

variable {s : String}

/-- Only numerals are written another way. -/
theorem isNumeralChar (h : Respelled s) : ∀ c ∈ s.toList, isNumeralChar c = true := by
  obtain ⟨v, hv, -⟩ := h
  cases hv with
  | integer read =>
    obtain ⟨n, hn, -⟩ := Option.map_eq_some_iff.1 read
    refine isNumeralChar_of_splitSign ?_
    rw [int?] at hn
    dsimp only at hn
    cases hdigits : digits? (splitSign s.toList).2 with
    | none =>
      rw [hdigits] at hn
      cases hn
    | some m => exact isNumeralChar_of_digits? hdigits
  | decimal _ _ read finite => exact isNumeralChar_of_floating? read finite

end Respelled

/-- Digits of an integer of 64 bits are written another way if they start with a zero that is not
all of them. -/
theorem respelled_digits_iff {c : Char} {cs : List Char} (hcs : ∀ d ∈ c :: cs, isDigit d = true)
    (hbound : (ofDigits (c :: cs) : Int) ≤ Int64.maxValue.toInt) :
    Respelled (String.ofList (c :: cs)) ↔ c = '0' ∧ cs ≠ [] := by
  have hhead : ∀ d ∈ (c :: cs).head?, isDigit d = true := by
    rintro d ⟨⟩
    exact hcs c List.mem_cons_self
  have hsign : splitSign (c :: cs) = (false, c :: cs) := splitSign_signText hhead false
  have hdigits : digits? (c :: cs) = some (ofDigits (c :: cs)) :=
    digits?_eq_some (List.cons_ne_nil _ _) hcs
  have hiff := decimalDigits_ofDigits_iff hcs
  generalize ofDigits (c :: cs) = n at *
  have hlower : Int64.minValue.toInt = -2 ^ 63 := by decide
  have hupper : Int64.maxValue.toInt = 2 ^ 63 - 1 := by decide
  have hmin : Int64.minValue.toInt ≤ (n : Int) := by omega
  have hvalue : (Int64.ofInt n).toInt = n := Int64.toInt_ofInt_of_le (by omega) (by omega)
  have hread : ReadsNumber (String.ofList (c :: cs)) (.long (Int64.ofInt n)) := by
    refine .integer ?_
    rw [String.toList_ofList, int64?, int?, hsign]
    dsimp only
    rw [hdigits]
    dsimp only
    rw [if_neg Bool.false_ne_true, if_pos ⟨hmin, hbound⟩]
    rfl
  have hlong : (long (Int64.ofInt n)).toText.toList = decimalDigits n := by
    rw [toText, hvalue, toList_toString, decide_eq_false (Int.not_lt.2 (Int.natCast_nonneg n)),
      Int.natAbs_natCast]
    rfl
  rw [← not_iff_not, ← toText_ofLiteral_iff, hread.ofLiteral_eq, ← String.toList_inj, hlong,
    String.toList_ofList, hiff]
  exact not_and_not_right.symm

end Value

/-! ## Clauses -/

namespace Query

open QueryText

/-- The query of a field with a plain value asks for the literal of the value. -/
theorem ofText_plain {f v : String} (hf : IsFieldName f) (hexists : f ≠ Clause.existence)
    (hv : IsPlainText v) (hglob : '*' ∉ v.toList ∧ '?' ∉ v.toList) (defaultField : Option String) :
    ofText (f ++ ":" ++ v) defaultField = .ok (leaf f (.term (Value.ofLiteral v))) := by
  have htext : (f ++ ":" ++ v).toList = (Token.clause ⟨some f, .plain v⟩).text := by
    simp [Token.text, Clause.text, ClauseValue.text]
  have hblank : ∀ c ∈ (f ++ ":" ++ v).toList, isBlank c = false := by
    rw [htext]
    refine List.forall_mem_append.2 ⟨fun c hc => ?_, List.forall_mem_cons.2 ⟨by decide, ?_⟩⟩
    · exact (isPlain_iff.1 (isPlain_of_isFieldChar (hf.chars c hc))).1
    · exact fun c hc => (isPlain_iff.1 (hv.chars c hc)).1
  have htrim : Text.trim (f ++ ":" ++ v) = f ++ ":" ++ v := by
    rw [Text.trim, Text.trimChars_eq_self hblank, String.ofList_toList]
  have hempty : (f ++ ":" ++ v).isEmpty = false := by
    rw [Bool.eq_false_iff, Ne, String.isEmpty_iff]
    intro h
    rw [h] at htext
    cases hcs : f.toList <;> simp [Token.text, Clause.text, hcs] at htext
  have hreadable : ∀ t ∈ [Token.clause ⟨some f, .plain v⟩], t.Readable := by
    rw [List.forall_mem_singleton]
    exact ⟨fun g hg => Option.some.inj hg ▸ hf, hv, fun h => absurd h (Option.some_ne_none f)⟩
  have hscan : Token.scan (f ++ ":" ++ v) = ([.clause ⟨some f, .plain v⟩], []) :=
    Token.scan_spaced hreadable (htext ▸ .one _)
  have hcondition : Clause.plainCondition v = .term (Value.ofLiteral v) := by
    refine if_neg fun h => ?_
    obtain ⟨c, hc, hstar⟩ := List.any_eq_true.1 h
    rw [Bool.or_eq_true, decide_eq_true_eq, decide_eq_true_eq] at hstar
    rcases hstar with rfl | rfl
    · exact hglob.1 hc
    · exact hglob.2 hc
  have hclause : Clause.toQuery (defaultField.getD anyField) ⟨some f, .plain v⟩ =
      leaf f (.term (Value.ofLiteral v)) := by
    rw [Clause.toQuery, if_neg hexists, hcondition]
  unfold ofText
  dsimp only
  rw [htrim, hempty, hscan, ← hclause]
  rfl

/-- The predicate of a field with a plain value tests for the literal of the value. -/
lemma compile_term {R : Type} [Environment] (E : Evaluator R) (now : Instant) (f : String)
    (t : Value) : ∃ p : R → Bool, (leaf f (.term t)).compile E now = .ok (fun r => .ok (p r)) ∧
      ∀ r, p r = true ↔ ∃ v ∈ E.extract r f, v.matchesTerm t = true :=
  ⟨_, rfl, fun _ => List.any_eq_true⟩

/-- **Plain values.** The query of a field with a plain value that starts with a letter or a digit
and has no wildcards has a predicate. It matches every record in which the field holds the text of
the value, unless this is the numeral of a number that is written another way; a record with just
such a text is missed. A text with characters that no numeral has is never missed, and the digits
of an integer of 64 bits are missed exactly if they start with a zero that is not all of them.

**Proof sketch.** The literal of the value is compared with a text by its own text. -/
theorem plain_value_finds_iff {R : Type} [Environment] (E : Evaluator R) (now : Instant)
    (defaultField : Option String) {f v : String} (hf : IsFieldName f)
    (hexists : f ≠ Clause.existence) (hchars : ∀ c ∈ v.toList, isPlain c = true)
    (hhead : ∃ c ∈ v.toList.head?, isAlphanumeric c = true)
    (hglob : '*' ∉ v.toList ∧ '?' ∉ v.toList) :
    (∃ q, ∃ p : R → Bool, ofText (f ++ ":" ++ v) defaultField = .ok q ∧
      q.compile E now = .ok (fun r => .ok (p r)) ∧
      (¬ Value.Respelled v → ∀ r, .str v ∈ E.extract r f → p r = true) ∧
      (Value.Respelled v → ∀ r, E.extract r f = [.str v] → p r = false)) ∧
    (Value.Respelled v → ∀ c ∈ v.toList, Numeral.isNumeralChar c = true) ∧
    ((∀ c ∈ v.toList, Numeral.isDigit c = true) →
      (Numeral.ofDigits v.toList : Int) ≤ Int64.maxValue.toInt →
      (Value.Respelled v ↔ v.toList.head? = some '0' ∧ v ≠ "0")) := by
  obtain ⟨c, hc, hstart⟩ := hhead
  obtain ⟨cs, hcs⟩ := List.head?_eq_some_iff.1 hc
  have hplain : IsPlainText v := by
    refine ⟨?_, hchars, ?_⟩
    · rintro rfl
      cases hcs
    · rw [hcs, List.head?_cons]
      simp only [List.mem_cons, Option.some.injEq, List.not_mem_nil, or_false]
      rintro (rfl | rfl | rfl) <;> revert hstart <;> decide +kernel
  obtain ⟨p, hp, hmatch⟩ := compile_term E now f (Value.ofLiteral v)
  refine ⟨⟨_, p, ofText_plain hf hexists hplain hglob defaultField, hp, fun h r hr => ?_,
    fun h r hr => ?_⟩, Value.Respelled.isNumeralChar, fun hdigits hbound => ?_⟩
  · exact (hmatch r).2 ⟨_, hr, (Value.matchesTerm_ofLiteral_iff v).2 h⟩
  · refine Bool.eq_false_iff.2 fun hmatches => ?_
    obtain ⟨w, hw, heq⟩ := (hmatch r).1 hmatches
    rw [hr, List.mem_singleton] at hw
    subst hw
    exact (Value.matchesTerm_ofLiteral_iff v).1 heq h
  · have hv : v = String.ofList (c :: cs) := by rw [← hcs, String.ofList_toList]
    subst hv
    rw [String.toList_ofList] at hdigits hbound
    rw [Value.respelled_digits_iff hdigits hbound, String.toList_ofList, List.head?_cons,
      Option.some.injEq]
    refine and_congr_right fun hzero => not_congr ?_
    rw [hzero, ← String.toList_inj, String.toList_ofList]
    exact ⟨fun h => h ▸ rfl, fun h => (List.cons.inj h).2⟩

section Examples

attribute [local instance] Environment.isolated

/-- A decimal in the form in which its number is written finds itself. -/
theorem tenth_found :
    let record : Json := .obj [("size", .str "0.1")]
    IsFieldName "size" ∧ "size" ≠ Clause.existence ∧ (∀ c ∈ "0.1".toList, isPlain c = true) ∧
      (∃ c ∈ "0.1".toList.head?, isAlphanumeric c = true) ∧
      ('*' ∉ "0.1".toList ∧ '?' ∉ "0.1".toList) ∧
      ∃ q, ∃ p : Json → Bool, ofText "size:0.1" none = .ok q ∧
        q.compile Evaluator.json Instant.earliest = .ok (fun r => .ok (p r)) ∧ p record = true := by
  intro record
  have hf : IsFieldName "size" := by decide +kernel
  have hchars : ∀ c ∈ "0.1".toList, isPlain c = true := List.all_eq_true.1 (by decide)
  have hhead : ∃ c ∈ "0.1".toList.head?, isAlphanumeric c = true := ⟨'0', rfl, by decide +kernel⟩
  have hkept : ¬ Value.Respelled "0.1" :=
    (Value.toText_ofLiteral_iff "0.1").1 (by decide +kernel)
  obtain ⟨⟨q, p, hq, hp, hfinds, -⟩, -⟩ := plain_value_finds_iff Evaluator.json Instant.earliest
    none hf (by decide) hchars hhead (by decide)
  exact ⟨hf, by decide, hchars, hhead, by decide, q, p, hq, hp,
    hfinds hkept record (List.mem_singleton_self _)⟩

/-- A text with zeros in front does not find itself, since it is read as a number. -/
theorem leading_zeros_missed :
    let record : Json := .obj [("code", .str "007")]
    IsFieldName "code" ∧ "code" ≠ Clause.existence ∧ (∀ c ∈ "007".toList, isPlain c = true) ∧
      (∃ c ∈ "007".toList.head?, isAlphanumeric c = true) ∧
      ('*' ∉ "007".toList ∧ '?' ∉ "007".toList) ∧
      ∃ q, ∃ p : Json → Bool, ofText "code:007" none = .ok q ∧
        q.compile Evaluator.json Instant.earliest = .ok (fun r => .ok (p r)) ∧
        .str "007" ∈ Evaluator.json.extract record "code" ∧ ¬ p record = true := by
  intro record
  have hf : IsFieldName "code" := by decide +kernel
  have hrespelled : Value.Respelled "007" := ⟨.long 7, .integer (by decide), by decide⟩
  have htext : "code" ++ ":" ++ "007" = "code:007" := by decide
  have hq := ofText_plain (v := "007") hf (by decide) (by decide +kernel) (by decide) none
  rw [htext] at hq
  obtain ⟨p, hp, hmatch⟩ :=
    compile_term Evaluator.json Instant.earliest "code" (Value.ofLiteral "007")
  have hextract : Evaluator.json.extract record "code" = [.str "007"] := rfl
  refine ⟨hf, by decide, List.all_eq_true.1 (by decide), ⟨'0', rfl, by decide +kernel⟩,
    by decide, _, p, hq, hp, hextract ▸ List.mem_singleton_self _, fun h => ?_⟩
  obtain ⟨v, hv, heq⟩ := (hmatch record).1 h
  rw [hextract, List.mem_singleton] at hv
  subst hv
  exact (Value.matchesTerm_ofLiteral_iff "007").1 heq hrespelled

end Examples

end Query

end Sift
