import Mathlib.Algebra.Order.Field.Rat
import Mathlib.Data.List.TakeWhile
import Mathlib.Data.Rat.Cast.Defs
import Sift.Proofs.NumberTexts

/-!
# What numerals spell

A numeral is a sign, digits, perhaps a point with a fraction, and perhaps an exponent. It spells
one rational number, which need not be a number of any format. The grammar is stated here without
the readers, and the readers are shown to follow it: they take exactly its texts, and give the
integer that is spelled, or the floating-point number nearest to the decimal that is spelled.

## Main definitions

* `Sift.Numeral.SpellsInteger`: a text spells an integer.
* `Sift.Numeral.SpellsDecimal`, `Sift.Numeral.Spells`: a text spells a decimal and its value.

## Main results

* `Sift.Numeral.int64?_eq_some_iff`: which integers are read.
* `Sift.Numeral.spellsDecimal_iff`: the decimal that a text spells is the one that is read.
* `Sift.Numeral.Spells.unique`: a text spells at most one number.
* `Sift.Numeral.floating?_eq_some_iff`: which finite doubles are read.
-/

set_option autoImplicit false

namespace Sift.Numeral

/-! ## The grammar -/

/-- An integer by its sign and its magnitude. -/
def withSign (negative : Bool) (n : Nat) : Int := if negative then -(n : Int) else n

/-- The sign of a numeral, where a missing one is a plus. -/
inductive IsSign : List Char → Bool → Prop where
  | minus : IsSign ['-'] true
  | plus : IsSign ['+'] false
  | missing : IsSign [] false

/-- A sign and digits. -/
inductive SpellsInteger : List Char → Int → Prop where
  | mk {sign ds : List Char} {negative : Bool} (hsign : IsSign sign negative) (hne : ds ≠ [])
      (hds : ∀ c ∈ ds, isDigit c = true) :
      SpellsInteger (sign ++ ds) (withSign negative (ofDigits ds))

/-- The end of a numeral, with its exponent. -/
inductive SpellsExponent : List Char → Int → Prop where
  | missing : SpellsExponent [] 0
  | marked {c : Char} {cs : List Char} {e : Int} (hmark : c = 'e' ∨ c = 'E')
      (h : SpellsInteger cs e) : SpellsExponent (c :: cs) e

/-- The middle of a numeral, with the digits of its fraction. -/
inductive SpellsFraction : List Char → List Char → Prop where
  | missing : SpellsFraction [] []
  | point {ds : List Char} (hds : ∀ c ∈ ds, isDigit c = true) : SpellsFraction ('.' :: ds) ds

/-- A numeral without its sign, by its coefficient and its power of ten. At least one digit stands
before or behind the point. -/
inductive SpellsScientific : List Char → Nat → Int → Prop where
  | mk {whole middle fraction tail : List Char} {e : Int} (hwhole : ∀ c ∈ whole, isDigit c = true)
      (hmiddle : SpellsFraction middle fraction) (hne : ¬ (whole = [] ∧ fraction = []))
      (htail : SpellsExponent tail e) :
      SpellsScientific (whole ++ (middle ++ tail)) (ofDigits (whole ++ fraction))
        (e - fraction.length)

/-- A numeral, by its sign, its coefficient and its power of ten. -/
inductive SpellsDecimal : List Char → Bool → Nat → Int → Prop where
  | mk {sign cs : List Char} {negative : Bool} {c : Nat} {e : Int} (hsign : IsSign sign negative)
      (h : SpellsScientific cs c e) : SpellsDecimal (sign ++ cs) negative c e

/-- The value of a decimal. -/
def decimalValue (negative : Bool) (c : Nat) (e : Int) : Rat := withSign negative c * 10 ^ e

/-- A text spells a number. -/
def Spells (cs : List Char) (q : Rat) : Prop :=
  ∃ negative c e, SpellsDecimal cs negative c e ∧ q = decimalValue negative c e

variable {cs : List Char}

/-- A text that spells an integer spells it as a number. -/
lemma SpellsInteger.spells {k : Int} (h : SpellsInteger cs k) : Spells cs k := by
  obtain ⟨hsign, hne, hds⟩ := h
  rename_i sign ds negative
  have hbody := SpellsScientific.mk hds .missing (fun h => hne h.1) .missing
  simp only [List.append_nil] at hbody
  refine ⟨negative, ofDigits ds, _, .mk hsign hbody, ?_⟩
  unfold decimalValue
  simp

/-! ## Signs and digits -/

/-- Every text is a sign, which may be empty, and what follows. -/
lemma exists_sign (cs : List Char) :
    ∃ sign, IsSign sign (splitSign cs).1 ∧ cs = sign ++ (splitSign cs).2 := by
  unfold splitSign
  split
  · exact ⟨_, .minus, rfl⟩
  · exact ⟨_, .plus, rfl⟩
  · exact ⟨_, .missing, rfl⟩

/-- A sign in front of a digit or a point is found. -/
lemma splitSign_append {sign : List Char} {negative : Bool} (h : IsSign sign negative)
    (hcs : ∀ c ∈ cs.head?, isDigit c = true ∨ c = '.') :
    splitSign (sign ++ cs) = (negative, cs) := by
  cases h with
  | minus => rfl
  | plus => rfl
  | missing =>
    rw [List.nil_append]
    unfold splitSign
    split
    · exact absurd (hcs _ rfl) (by decide)
    · exact absurd (hcs _ rfl) (by decide)
    · rfl

/-- Exactly digits are read as a number. -/
lemma digits?_eq_some_iff {n : Nat} :
    digits? cs = some n ↔ cs ≠ [] ∧ (∀ c ∈ cs, isDigit c = true) ∧ n = ofDigits cs := by
  unfold digits?
  split
  · rename_i h
    rw [Option.some_inj]
    exact ⟨fun hn => ⟨h.1, List.all_eq_true.1 h.2, hn.symm⟩, fun hcs => hcs.2.2.symm⟩
  · rename_i h
    exact iff_of_false nofun fun hcs => h ⟨hcs.1, List.all_eq_true.2 hcs.2.1⟩

/-- A sign and digits are read as the integer that they spell. -/
lemma spellsInteger_iff {k : Int} : SpellsInteger cs k ↔
    ∃ n, digits? (splitSign cs).2 = some n ∧ k = withSign (splitSign cs).1 n := by
  constructor
  · rintro ⟨hsign, hne, hds⟩
    rename_i sign ds negative
    rw [splitSign_append hsign fun c hc => .inl (hds c (List.mem_of_mem_head? hc))]
    exact ⟨_, digits?_eq_some_iff.2 ⟨hne, hds, rfl⟩, rfl⟩
  · rintro ⟨n, hn, rfl⟩
    obtain ⟨hne, hds, rfl⟩ := digits?_eq_some_iff.1 hn
    obtain ⟨sign, hsign, hcs⟩ := exists_sign cs
    have hspells := SpellsInteger.mk hsign hne hds
    rwa [← hcs] at hspells

/-- A text spells one integer at most. -/
theorem SpellsInteger.unique {k k' : Int} (h : SpellsInteger cs k) (h' : SpellsInteger cs k') :
    k = k' := by
  obtain ⟨n, hn, rfl⟩ := spellsInteger_iff.1 h
  obtain ⟨n', hn', rfl⟩ := spellsInteger_iff.1 h'
  rw [Option.some.inj (hn.symm.trans hn')]

/-- Exactly the texts that spell an integer within bounds are read as one. -/
lemma int?_eq_some_iff {lo hi k : Int} :
    int? lo hi cs = some k ↔ SpellsInteger cs k ∧ lo ≤ k ∧ k ≤ hi := by
  rw [spellsInteger_iff]
  unfold int?
  dsimp only
  cases digits? (splitSign cs).2 with
  | none => simp
  | some n =>
    change (if lo ≤ withSign (splitSign cs).1 n ∧ withSign (splitSign cs).1 n ≤ hi then
      some (withSign (splitSign cs).1 n) else none) = some k ↔ _
    rw [Option.ite_none_right_eq_some, Option.some_inj]
    constructor
    · rintro ⟨hrange, rfl⟩
      exact ⟨⟨n, rfl, rfl⟩, hrange⟩
    · rintro ⟨⟨_, hn, rfl⟩, hrange⟩
      obtain rfl := Option.some.inj hn
      exact ⟨hrange, rfl⟩

/-- **Which integers are read**: those of 64 bits that are spelled. -/
theorem int64?_eq_some_iff {n : Int64} : int64? cs = some n ↔ SpellsInteger cs n.toInt := by
  unfold int64?
  rw [Option.map_eq_some_iff]
  constructor
  · rintro ⟨k, hk, rfl⟩
    obtain ⟨hspells, hlower, hupper⟩ := int?_eq_some_iff.1 hk
    have hmax : Int64.maxValue.toInt + 1 = 2 ^ 63 := by decide
    rwa [Int64.toInt_ofInt_of_le hlower (by omega)]
  · intro h
    exact ⟨n.toInt, int?_eq_some_iff.2 ⟨h, n.minValue_le_toInt, n.toInt_le⟩, Int64.ofInt_toInt n⟩

/-! ## Decimals -/

/-- Exactly the texts that spell an exponent are read as one. -/
lemma exponent?_eq_some_iff {e : Int} : exponent? cs = some e ↔ SpellsExponent cs e := by
  cases cs with
  | nil =>
    unfold exponent?
    rw [Option.some_inj]
    constructor
    · rintro rfl
      exact .missing
    · rintro ⟨⟩
      rfl
  | cons c rest =>
    have hread : exponent? (c :: rest) = some e ↔
        (c = 'e' ∨ c = 'E') ∧ SpellsInteger rest e := by
      unfold exponent?
      dsimp only
      rw [spellsInteger_iff, Option.ite_none_right_eq_some]
      refine and_congr_right fun _ => ?_
      cases digits? (splitSign rest).2 with
      | none => exact iff_of_false nofun fun ⟨_, hn, _⟩ => nomatch hn
      | some n =>
        constructor
        · intro he
          exact ⟨n, rfl, (Option.some.inj he).symm⟩
        · rintro ⟨_, hn, rfl⟩
          obtain rfl := Option.some.inj hn
          rfl
    rw [hread]
    constructor
    · rintro ⟨hmark, h⟩
      exact .marked hmark h
    · rintro ⟨⟩
      exact ⟨by assumption, by assumption⟩

/-- What stands behind the digits of a numeral does not begin with a digit. -/
lemma SpellsExponent.stops {e : Int} (h : SpellsExponent cs e) : QueryText.Stops isDigit cs := by
  cases h with
  | missing => exact .nil _
  | marked hmark _ =>
    refine .cons ?_ _
    rcases hmark with rfl | rfl <;> decide

/-- A numeral without its sign begins with a digit or with the point. -/
lemma SpellsScientific.exists_head {c : Nat} {e : Int} (h : SpellsScientific cs c e) :
    ∃ d rest, cs = d :: rest ∧ (isDigit d = true ∨ d = '.') := by
  obtain ⟨hwhole, hmiddle, hne, htail⟩ := h
  rename_i whole middle fraction tail e
  cases whole with
  | cons d rest => exact ⟨d, _, rfl, .inl (hwhole d List.mem_cons_self)⟩
  | nil =>
    cases hmiddle with
    | missing => exact absurd ⟨rfl, rfl⟩ hne
    | point _ => exact ⟨'.', _, rfl, .inr rfl⟩

/-- A number begins with a digit or a point. -/
lemma SpellsScientific.head {c : Nat} {e : Int} (h : SpellsScientific cs c e) :
    ∀ d ∈ cs.head?, isDigit d = true ∨ d = '.' := by
  obtain ⟨d, rest, rfl, hd⟩ := h.exists_head
  intro d' hd'
  obtain rfl := Option.some.inj hd'
  exact hd

/-- No word that begins with a letter is a numeral. -/
lemma SpellsScientific.word_ne {c : Nat} {e : Int} (h : SpellsScientific cs c e) {w : String}
    (hw : w.toList.head?.any (fun d => isDigit d || d == '.') = false) :
    String.ofList (cs.map asciiLower) ≠ w := by
  obtain ⟨d, rest, rfl, hd⟩ := h.exists_head
  rintro rfl
  have hlower : asciiLower d = d := by
    rcases hd with hd | rfl
    · have hd := toNat_of_isDigit hd
      unfold asciiLower
      refine if_neg fun h => ?_
      have hA : 65 ≤ d.toNat := h.1
      omega
    · decide
  rw [String.toList_ofList, List.map_cons, List.head?_cons, Option.any_some, hlower] at hw
  rcases hd with hd | rfl
  · rw [hd, Bool.true_or] at hw
    exact absurd hw (by decide)
  · exact absurd hw (by decide)

/-- Exactly the texts that spell a number are read as one. -/
lemma scientific?_eq_some_iff {c : Nat} {e : Int} :
    scientific? cs = some (c, e) ↔ SpellsScientific cs c e := by
  constructor
  · intro h
    have hdigits : ∀ ds : List Char, ∀ d ∈ ds.takeWhile isDigit, isDigit d = true :=
      fun ds d hd => List.mem_takeWhile_imp hd
    have hcs : cs = cs.takeWhile isDigit ++ cs.dropWhile isDigit :=
      List.takeWhile_append_dropWhile.symm
    unfold scientific? at h
    dsimp only at h
    split at h
    · rename_i more hpoint
      dsimp only at h
      rw [Option.ite_none_left_eq_some, Option.map_eq_some_iff] at h
      obtain ⟨hne, e', he, hce⟩ := h
      obtain ⟨rfl, rfl⟩ := Prod.mk.inj hce
      have hbody := SpellsScientific.mk (hdigits cs) (.point (hdigits more)) hne
        (exponent?_eq_some_iff.1 he)
      rwa [List.cons_append, List.takeWhile_append_dropWhile, ← hpoint, ← hcs] at hbody
    · dsimp only at h
      rw [Option.ite_none_left_eq_some, Option.map_eq_some_iff] at h
      obtain ⟨hne, e', he, hce⟩ := h
      obtain ⟨rfl, rfl⟩ := Prod.mk.inj hce
      have hbody := SpellsScientific.mk (hdigits cs) .missing hne (exponent?_eq_some_iff.1 he)
      rwa [List.nil_append, ← hcs] at hbody
  · rintro ⟨hwhole, hmiddle, hne, htail⟩
    rename_i whole middle fraction tail e
    have hexponent := exponent?_eq_some_iff.2 htail
    cases hmiddle with
    | missing =>
      obtain ⟨htake, hdrop⟩ := Writes.span_digits hwhole htail.stops
      unfold scientific?
      dsimp only
      rw [List.nil_append, htake, hdrop]
      cases htail with
      | missing => rw [if_neg hne, hexponent]; rfl
      | marked hmark h =>
        rcases hmark with rfl | rfl
        · exact (if_neg hne).trans (congrArg (Option.map _) hexponent)
        · exact (if_neg hne).trans (congrArg (Option.map _) hexponent)
    | point hds =>
      have hstops : QueryText.Stops isDigit ('.' :: fraction ++ tail) := .cons (by decide) _
      obtain ⟨htake, hdrop⟩ := Writes.span_digits hwhole hstops
      obtain ⟨htake', hdrop'⟩ := Writes.span_digits hds htail.stops
      unfold scientific?
      dsimp only
      rw [htake, hdrop]
      simp only [List.cons_append, htake', hdrop', hne, hexponent, if_false, Option.map_some]

/-- **The decimal that a text spells** is the one that is read. -/
theorem spellsDecimal_iff {negative : Bool} {c : Nat} {e : Int} :
    SpellsDecimal cs negative c e ↔
      (splitSign cs).1 = negative ∧ scientific? (splitSign cs).2 = some (c, e) := by
  constructor
  · rintro ⟨hsign, hbody⟩
    rw [splitSign_append hsign hbody.head]
    exact ⟨rfl, scientific?_eq_some_iff.2 hbody⟩
  · rintro ⟨rfl, hread⟩
    obtain ⟨sign, hsign, hcs⟩ := exists_sign cs
    have hspells := SpellsDecimal.mk hsign (scientific?_eq_some_iff.1 hread)
    rwa [← hcs] at hspells

/-- **A text spells at most one number.** -/
theorem Spells.unique {q q' : Rat} (h : Spells cs q) (h' : Spells cs q') : q = q' := by
  obtain ⟨negative, c, e, hspells, rfl⟩ := h
  obtain ⟨negative', c', e', hspells', rfl⟩ := h'
  obtain ⟨rfl, hread⟩ := spellsDecimal_iff.1 hspells
  obtain ⟨rfl, hread'⟩ := spellsDecimal_iff.1 hspells'
  obtain ⟨rfl, rfl⟩ := Prod.mk.inj (Option.some.inj (hread.symm.trans hread'))
  rfl

/-- **Which finite doubles are read**: those that are nearest to a decimal that is spelled. The
words for infinity and not-a-number spell no number. -/
theorem floating?_eq_some_iff {x : Double} (hx : x.isFinite = true) :
    floating? cs = some x ↔
      ∃ negative c e, SpellsDecimal cs negative c e ∧ x = Floating.ofDecimal negative c e := by
  have hinfinity : ∀ negative, (Floating.infinity negative : Double).isFinite = false := by
    decide +kernel
  have hnan : ∀ negative, (Floating.notANumber negative : Double).isFinite = false := by
    decide +kernel
  simp only [spellsDecimal_iff]
  unfold floating?
  dsimp only
  constructor
  · intro h
    split at h
    · obtain rfl := Option.some.inj h
      exact absurd hx (by rw [hinfinity]; decide)
    · split at h
      · obtain rfl := Option.some.inj h
        exact absurd hx (by rw [hnan]; decide)
      · obtain ⟨⟨c, e⟩, hread, rfl⟩ := Option.map_eq_some_iff.1 h
        exact ⟨_, c, e, ⟨rfl, hread⟩, rfl⟩
  · rintro ⟨_, c, e, ⟨rfl, hread⟩, rfl⟩
    have hbody := scientific?_eq_some_iff.1 hread
    rw [if_neg (not_or.2 ⟨hbody.word_ne (by decide), hbody.word_ne (by decide)⟩),
      if_neg (hbody.word_ne (by decide)), hread]
    rfl

end Sift.Numeral
