import Sift.Proofs.IntegerParts
import Sift.Value.Coerce

/-!
# Integers from values

A value is coerced to an integer by dropping the fraction of the number that it denotes. Two things
go wrong on the way. Floating-point numbers beyond the integers of the wanted width become the last
integer on their side, and not nothing. And the text of a number that is no integer of 64 bits is
rounded to a double first, which may be a whole number other than the integer part of the number.
In all other cases the integer is exact.

## Main definitions

* `Sift.Value.Denotes`: the number of a value, as a fraction.
* `Sift.Value.HasPart`: the integer part of the number of a value.
* `Sift.Value.ReadsExactly`: a coercion gives the integer part, and nothing where it is beyond the
  integers of the width.
* `Sift.Value.Exceeds`, `Sift.Value.Misread`: the two things that go wrong.

## Main results

* `Sift.Value.misread_str_iff`: which texts are misread.
* `Sift.Value.exists_toLong?`: no integer part of 64 bits is refused.
* `Sift.Value.readsExactly_iff`: the coercions are exact, but for the values that are misread.
* `Sift.Value.great_double_kept`: a double that becomes the largest integer.
-/

set_option autoImplicit false

namespace Sift

/-- The integer of a range that is nearest to an integer. -/
def keep (lo hi k : Int) : Int := max lo (min hi k)

/-- What is kept within bounds is within them. -/
lemma keep_bounds {lo hi : Int} (h : lo ≤ hi) (k : Int) :
    lo ≤ keep lo hi k ∧ keep lo hi k ≤ hi := by
  unfold keep
  omega

/-- Exactly what is within bounds stays as it is. -/
lemma keep_eq_iff {lo hi k : Int} (h : lo ≤ hi) : keep lo hi k = k ↔ lo ≤ k ∧ k ≤ hi := by
  unfold keep
  omega

/-- An integer within bounds is one of 64 bits. -/
lemma exists_int64 {k : Int} (h : Int64.minValue.toInt ≤ k ∧ k ≤ Int64.maxValue.toInt) :
    ∃ n : Int64, n.toInt = k := by
  have hmin : Int64.minValue.toInt = -2 ^ 63 := by decide
  have hmax : Int64.maxValue.toInt = 2 ^ 63 - 1 := by decide
  exact ⟨Int64.ofInt k, Int64.toInt_ofInt_of_le (by omega) (by omega)⟩

/-- An integer within bounds is one of 32 bits. -/
lemma exists_int32 {k : Int} (h : Int32.minValue.toInt ≤ k ∧ k ≤ Int32.maxValue.toInt) :
    ∃ n : Int32, n.toInt = k := by
  have hmin : Int32.minValue.toInt = -2 ^ 31 := by decide
  have hmax : Int32.maxValue.toInt = 2 ^ 31 - 1 := by decide
  exact ⟨Int32.ofInt k, Int32.toInt_ofInt_of_le (by omega) (by omega)⟩

/-! ## Floating-point numbers -/

namespace Floating

variable {f : BinaryFormat} {x : Floating f}

/-- A finite number without its fraction. -/
def part? (x : Floating f) : Option Int :=
  if x.isFinite then some (integerPart x.value) else none

/-- The integer part of a number that is finite. -/
lemma part?_eq_some_iff {k : Int} :
    x.part? = some k ↔ x.isFinite = true ∧ integerPart x.value = k := by
  rw [part?, Option.ite_none_right_eq_some, Option.some_inj]

/-- A finite number is cut off and kept within bounds. -/
lemma clampWith_truncate (hf : f.Wide) (hx : x.isFinite = true) (lo hi : Int) :
    x.clampWith truncate lo hi = keep lo hi (integerPart x.value) := by
  rw [clampWith, truncate_eq hf hx]
  rfl

/-- The integer part of a number, kept within 64 bits. -/
lemma map_toInt64? (hf : f.Wide) (x : Floating f) : x.toInt64?.map Int64.toInt =
    x.part?.map (keep Int64.minValue.toInt Int64.maxValue.toInt) := by
  unfold toInt64? part?
  split
  · rename_i hx
    obtain ⟨n, hn⟩ := exists_int64 (keep_bounds (by decide) (integerPart x.value))
    rw [clampWith_truncate hf hx, Option.map_some, Option.map_some, ← hn, Int64.ofInt_toInt]
  · rfl

/-- When an integer of 64 bits is the integer part of a number, kept within bounds. -/
lemma toInt64?_eq_some_iff (hf : f.Wide) {n : Int64} : x.toInt64? = some n ↔
    x.part?.map (keep Int64.minValue.toInt Int64.maxValue.toInt) = some n.toInt := by
  have hinj : Function.Injective Int64.toInt := fun _ _ h => Int64.toInt_inj.1 h
  rw [← (Option.map_injective hinj).eq_iff, map_toInt64? hf, Option.map_some]

/-- The integer part of a number, kept within 32 bits. -/
lemma map_toInt32? (hf : f.Wide) (x : Floating f) : x.toInt32?.map Int32.toInt =
    x.part?.map (keep Int32.minValue.toInt Int32.maxValue.toInt) := by
  unfold toInt32? part?
  split
  · rename_i hx
    obtain ⟨n, hn⟩ := exists_int32 (keep_bounds (by decide) (integerPart x.value))
    rw [clampWith_truncate hf hx, Option.map_some, Option.map_some, ← hn, Int32.ofInt_toInt]
  · rfl

/-- When an integer of 32 bits is the integer part of a number, kept within bounds. -/
lemma toInt32?_eq_some_iff (hf : f.Wide) {n : Int32} : x.toInt32? = some n ↔
    x.part?.map (keep Int32.minValue.toInt Int32.maxValue.toInt) = some n.toInt := by
  have hinj : Function.Injective Int32.toInt := fun _ _ h => Int32.toInt_inj.1 h
  rw [← (Option.map_injective hinj).eq_iff, map_toInt32? hf, Option.map_some]

end Floating

/-! ## The number of a value -/

namespace Value

/-- The number that a value denotes: an integer or a finite number itself, and the number that a
text spells between blanks. -/
inductive Denotes : Value → Rat → Prop where
  | int (n : Int32) : Denotes (.int n) n.toInt
  | long (n : Int64) : Denotes (.long n) n.toInt
  | float {x : Single} (hx : x.isFinite = true) : Denotes (.float x) x.value
  | double {x : Double} (hx : x.isFinite = true) : Denotes (.double x) x.value
  | str {s : String} {q : Rat} (h : Numeral.Spells (Text.trimChars s.toList) q) :
      Denotes (.str s) q

variable {v : Value} {lo hi k : Int} {read : Option Int}

/-- A value denotes one number at most. -/
lemma Denotes.unique {q q' : Rat} (h : v.Denotes q) (h' : v.Denotes q') : q = q' := by
  cases h with
  | str h =>
    cases h' with
    | str h' => exact h.unique h'
  | int n | long n | float hx | double hx =>
    cases h'
    rfl

/-- An integer is the number that a value denotes, without its fraction. -/
def HasPart (v : Value) (k : Int) : Prop := ∃ q, v.Denotes q ∧ integerPart q = k

/-- A value has one integer part at most. -/
lemma HasPart.unique {k' : Int} (h : v.HasPart k) (h' : v.HasPart k') : k = k' := by
  obtain ⟨q, hq, rfl⟩ := h
  obtain ⟨q', hq', rfl⟩ := h'
  rw [hq.unique hq']

/-- What is read of a value is the number that it denotes, without its fraction, and nothing where
this is not in a range. -/
structure ReadsExactly (v : Value) (lo hi : Int) (read : Option Int) : Prop where
  part : ∀ k, read = some k → v.HasPart k
  beyond : ∀ k, v.HasPart k → ¬ (lo ≤ k ∧ k ≤ hi) → read = none

/-- Only integers of the range have to be looked at. -/
lemma readsExactly_iff_part (h : ∀ k, read = some k → lo ≤ k ∧ k ≤ hi) :
    v.ReadsExactly lo hi read ↔ ∀ k, read = some k → v.HasPart k := by
  refine ⟨ReadsExactly.part, fun hpart => ⟨hpart, fun k hk hbeyond => ?_⟩⟩
  refine Option.eq_none_iff_forall_ne_some.2 fun k' hk' => hbeyond ?_
  rw [hk.unique (hpart k' hk')]
  exact h k' hk'

/-- A finite floating-point number without its fraction. -/
def floatingPart? : Value → Option Int
  | float x => x.part?
  | double x => x.part?
  | _ => none

/-- A finite floating-point number is not an integer of a range without its fraction. -/
def Exceeds (lo hi : Int) (v : Value) : Prop :=
  ∃ p, v.floatingPart? = some p ∧ ¬ (lo ≤ p ∧ p ≤ hi)

/-- The values of which a wrong integer of a range is read. -/
inductive Misread (lo hi : Int) : Value → Prop where
  /-- A number beyond the range becomes the end of the range. -/
  | number {v : Value} (h : v.Exceeds lo hi) : Misread lo hi v
  /-- A text that spells no integer of 64 bits, and is rounded to a whole number: kept within 64
  bits, it is not the integer part of the number. -/
  | text {s : String} {negative : Bool} {c : Nat} {e k : Int}
      (spelled : Numeral.SpellsDecimal (Text.trimChars s.toList) negative c e)
      (noLong : ∀ m : Int64, ¬ Numeral.SpellsInteger (Text.trimChars s.toList) m.toInt)
      (finite : (Floating.ofDecimal negative c e : Double).isFinite = true)
      (whole : (Floating.ofDecimal negative c e : Double).value = k)
      (wrong : keep Int64.minValue.toInt Int64.maxValue.toInt k ≠
        integerPart (Numeral.decimalValue negative c e))
      (within : lo ≤ keep Int64.minValue.toInt Int64.maxValue.toInt k ∧
        keep Int64.minValue.toInt Int64.maxValue.toInt k ≤ hi) : Misread lo hi (.str s)

/-! ## Numbers -/

/-- Whether a value is a floating-point number. -/
def isFloating : Value → Bool
  | float _ | double _ => true
  | _ => false

/-- The integer part of a value that is a floating-point number is computed. -/
lemma hasPart_iff_floatingPart? (h : v.isFloating = true) :
    v.HasPart k ↔ v.floatingPart? = some k := by
  cases v with
  | float x | double x =>
    rw [floatingPart?, Floating.part?_eq_some_iff]
    constructor
    · rintro ⟨_, hx, rfl⟩
      cases hx
      exact ⟨by assumption, rfl⟩
    · rintro ⟨hx, rfl⟩
      exact ⟨_, by constructor; exact hx, rfl⟩
  | _ => cases h

/-- Only texts are misread otherwise than by being beyond the range. -/
lemma misread_iff_exceeds (h : v.text? = none) : v.Misread lo hi ↔ v.Exceeds lo hi := by
  constructor
  · rintro (h | _)
    · assumption
    · cases h
  · exact .number

/-- A floating-point number that is kept within a range is read exactly if it is in the range. -/
lemma readsExactly_keep_iff (h : v.isFloating = true) (hrange : lo ≤ hi) :
    v.ReadsExactly lo hi (v.floatingPart?.map (keep lo hi)) ↔ ¬ v.Misread lo hi := by
  have htext : v.text? = none := by
    cases v with
    | str s => cases h
    | _ => rfl
  rw [misread_iff_exceeds htext, readsExactly_iff_part fun k hk => ?range]
  case range =>
    obtain ⟨p, -, rfl⟩ := Option.map_eq_some_iff.1 hk
    exact keep_bounds hrange p
  unfold Exceeds
  simp only [hasPart_iff_floatingPart? h, ← keep_eq_iff hrange]
  cases v.floatingPart? with
  | none => exact iff_of_true nofun nofun
  | some p => simp [eq_comm]

/-- An integer of 32 bits is its integer part. -/
lemma hasPart_int (n : Int32) : (Value.int n).HasPart n.toInt :=
  ⟨_, .int n, integerPart_intCast _⟩

/-- An integer of 64 bits is its integer part. -/
lemma hasPart_long (n : Int64) : (Value.long n).HasPart n.toInt :=
  ⟨_, .long n, integerPart_intCast _⟩

/-! ## Texts -/

section

variable {s : String}

/-- A text that spells a decimal number has its integer part. -/
lemma hasPart_of_spellsDecimal {negative : Bool} {c : Nat} {e : Int}
    (h : Numeral.SpellsDecimal (Text.trimChars s.toList) negative c e) :
    (Value.str s).HasPart (integerPart (Numeral.decimalValue negative c e)) :=
  ⟨_, .str ⟨negative, c, e, h, rfl⟩, rfl⟩

/-- The integer of a text: the one that it spells, if it fits in 64 bits, and else the nearest
double to what it spells, without its fraction and kept within 64 bits. -/
lemma toLong?_str_iff {m : Int64} : (Value.str s).toLong? = some m ↔
    Numeral.SpellsInteger (Text.trimChars s.toList) m.toInt ∨
      (∀ m : Int64, ¬ Numeral.SpellsInteger (Text.trimChars s.toList) m.toInt) ∧
        ∃ negative c e, Numeral.SpellsDecimal (Text.trimChars s.toList) negative c e ∧
          (Floating.ofDecimal negative c e : Double).isFinite = true ∧
          keep Int64.minValue.toInt Int64.maxValue.toInt
            (integerPart (Floating.ofDecimal negative c e : Double).value) = m.toInt := by
  have hwide := BinaryFormat.wide_binary64
  simp only [← Numeral.int64?_eq_some_iff]
  unfold toLong?
  dsimp only
  cases hinteger : Numeral.int64? (Text.trimChars s.toList) with
  | some n => simp
  | none =>
    dsimp only
    have hnone : ∀ m : Int64, ¬ (none = some m) := nofun
    rw [or_iff_right (hnone m), and_iff_right hnone]
    constructor
    · intro h
      split at h
      · rename_i x hx
        obtain ⟨p, hp, hm⟩ :=
          Option.map_eq_some_iff.1 ((Floating.toInt64?_eq_some_iff hwide).1 h)
        obtain ⟨hfinite, rfl⟩ := Floating.part?_eq_some_iff.1 hp
        obtain ⟨negative, c, e, hspelled, rfl⟩ := (Numeral.floating?_eq_some_iff hfinite).1 hx
        exact ⟨negative, c, e, hspelled, hfinite, hm⟩
      · cases h
    · rintro ⟨negative, c, e, hspelled, hfinite, hm⟩
      rw [(Numeral.floating?_eq_some_iff hfinite).2 ⟨negative, c, e, hspelled, rfl⟩]
      exact (Floating.toInt64?_eq_some_iff hwide).2 (Option.map_eq_some_iff.2
        ⟨_, Floating.part?_eq_some_iff.2 ⟨hfinite, rfl⟩, hm⟩)

/-- **Which texts are misread**: those of which an integer of the range is read that is not the
integer part of the number.

**Proof sketch.** An integer of 64 bits is read exactly. Another number is rounded to a double. If
the double has a fraction, it has the integer part of the number, which is small; so it is kept
as it is. -/
theorem misread_str_iff : (Value.str s).Misread lo hi ↔
    ∃ m, (Value.str s).toLong? = some m ∧ (lo ≤ m.toInt ∧ m.toInt ≤ hi) ∧
      ¬ (Value.str s).HasPart m.toInt := by
  have hwide := BinaryFormat.wide_binary64
  have heven := even_hidden_binary64
  constructor
  · rintro (⟨_, hp, -⟩ | ⟨hspelled, hlong, hfinite, hwhole, hwrong, hwithin⟩)
    · cases hp
    · rename_i negative c e k
      obtain ⟨m, hm⟩ := exists_int64 (keep_bounds (by decide) k)
      refine ⟨m, toLong?_str_iff.2 (.inr ⟨hlong, negative, c, e, hspelled, hfinite, ?_⟩),
        hm ▸ hwithin, fun hpart => hwrong ?_⟩
      · rw [hwhole, integerPart_intCast, hm]
      · rw [← hm]
        exact hpart.unique (hasPart_of_spellsDecimal hspelled)
  · rintro ⟨m, hm, hwithin, hpart⟩
    rcases toLong?_str_iff.1 hm with hspelled | ⟨hlong, negative, c, e, hspelled, hfinite, hkept⟩
    · exact absurd ⟨_, .str hspelled.spells, integerPart_intCast _⟩ hpart
    · rcases Floating.exists_int_or_fraction hwide (Floating.ofDecimal negative c e) with
        ⟨k, hk⟩ | hfraction
      · rw [hk, integerPart_intCast] at hkept
        rw [← hkept] at hpart hwithin
        refine .text hspelled hlong hfinite hk (fun hright => hpart ?_) hwithin
        rw [hright]
        exact hasPart_of_spellsDecimal hspelled
      · have hsmall := Floating.abs_integerPart_lt hwide hfraction
        have hhidden : (binary64.hidden : Int) = 2 ^ 52 := by decide +kernel
        have hmin : Int64.minValue.toInt = -2 ^ 63 := by decide
        have hmax : Int64.maxValue.toInt = 2 ^ 63 - 1 := by decide
        rw [hhidden, abs_lt] at hsmall
        rw [(keep_eq_iff (by decide)).2 (by omega),
          Floating.integerPart_ofDecimal hwide heven hfinite hfraction] at hkept
        exact absurd (hkept ▸ hasPart_of_spellsDecimal hspelled) hpart

/-- The nearest double is the even number behind the number. -/
example : (Value.str "9007199254740993.5").toLong? = some 9007199254740994 := by decide +kernel

end

/-! ## Long integers -/

/-- Values other than floating-point numbers are misread where a wrong long integer is read of
them. -/
lemma misread_iff_toLong? (h : v.isFloating = false) : v.Misread lo hi ↔
    ∃ m, v.toLong? = some m ∧ (lo ≤ m.toInt ∧ m.toInt ≤ hi) ∧ ¬ v.HasPart m.toInt := by
  cases v with
  | float _ | double _ => cases h
  | str s => exact misread_str_iff
  | int n =>
    rw [misread_iff_exceeds rfl]
    refine iff_of_false nofun ?_
    rintro ⟨m, hm, -, hpart⟩
    obtain rfl := Option.some.inj hm
    exact hpart (n.toInt_toInt64 ▸ hasPart_int n)
  | long n =>
    rw [misread_iff_exceeds rfl]
    refine iff_of_false nofun ?_
    rintro ⟨m, hm, -, hpart⟩
    obtain rfl := Option.some.inj hm
    exact hpart (hasPart_long n)
  | null | bool _ | list _ | map _ =>
    rw [misread_iff_exceeds rfl]
    exact iff_of_false nofun nofun

/-- If the long integers of a range are read, then exactly but for the values that are misread. -/
lemma readsExactly_iff_of_toLong? (h : v.isFloating = false)
    (hread : ∀ k, read = some k ↔ (lo ≤ k ∧ k ≤ hi) ∧ ∃ m, v.toLong? = some m ∧ m.toInt = k) :
    v.ReadsExactly lo hi read ↔ ¬ v.Misread lo hi := by
  rw [readsExactly_iff_part fun k hk => ((hread k).1 hk).1, misread_iff_toLong? h]
  constructor
  · rintro hpart ⟨m, hm, hrange, hwrong⟩
    exact hwrong (hpart _ ((hread _).2 ⟨hrange, m, hm, rfl⟩))
  · intro hright k hk
    obtain ⟨hrange, m, hm, rfl⟩ := (hread k).1 hk
    exact not_not.1 fun hwrong => hright ⟨m, hm, hrange, hwrong⟩

/-- **The coercion to a long integer is exact but for the values that are misread.** -/
theorem readsExactly_toLong?_iff (v : Value) :
    v.ReadsExactly Int64.minValue.toInt Int64.maxValue.toInt (v.toLong?.map Int64.toInt) ↔
      ¬ v.Misread Int64.minValue.toInt Int64.maxValue.toInt := by
  have hread : ∀ k, v.toLong?.map Int64.toInt = some k ↔
      (Int64.minValue.toInt ≤ k ∧ k ≤ Int64.maxValue.toInt) ∧
        ∃ m, v.toLong? = some m ∧ m.toInt = k := by
    intro k
    rw [Option.map_eq_some_iff]
    refine (and_iff_right_of_imp ?_).symm
    rintro ⟨m, -, rfl⟩
    exact ⟨m.minValue_le_toInt, m.toInt_le⟩
  cases v with
  | float x =>
    rw [toLong?, Floating.map_toInt64? BinaryFormat.wide_binary32]
    exact readsExactly_keep_iff rfl (by decide)
  | double x =>
    rw [toLong?, Floating.map_toInt64? BinaryFormat.wide_binary64]
    exact readsExactly_keep_iff rfl (by decide)
  | int _ | long _ | str _ | null | bool _ | list _ | map _ =>
    exact readsExactly_iff_of_toLong? rfl hread

/-- **No integer part of 64 bits is refused.** -/
theorem exists_toLong? (h : v.HasPart k)
    (hk : Int64.minValue.toInt ≤ k ∧ k ≤ Int64.maxValue.toInt) : ∃ n, v.toLong? = some n := by
  have hwide := BinaryFormat.wide_binary64
  have hmin : Int64.minValue.toInt = -2 ^ 63 := by decide
  have hmax : Int64.maxValue.toInt = 2 ^ 63 - 1 := by decide
  obtain ⟨q, hq, rfl⟩ := h
  cases hq with
  | int n => exact ⟨_, rfl⟩
  | long n => exact ⟨_, rfl⟩
  | float hx => exact ⟨_, if_pos hx⟩
  | double hx => exact ⟨_, if_pos hx⟩
  | @str s q h =>
    obtain ⟨negative, c, e, hspelled, rfl⟩ := h
    have hfinite : (Floating.ofDecimal negative c e : Double).isFinite = true :=
      Floating.isFinite_ofDecimal (by rw [abs_le]; omega)
    by_cases hlong : ∃ m : Int64, Numeral.SpellsInteger (Text.trimChars s.toList) m.toInt
    · obtain ⟨m, hm⟩ := hlong
      exact ⟨m, toLong?_str_iff.2 (.inl hm)⟩
    · have hrange : Int64.minValue.toInt ≤ Int64.maxValue.toInt := by decide
      obtain ⟨m, hm⟩ := exists_int64 (keep_bounds hrange
        (integerPart (Floating.ofDecimal negative c e : Double).value))
      exact ⟨m, toLong?_str_iff.2
        (.inr ⟨not_exists.1 hlong, negative, c, e, hspelled, hfinite, hm.symm⟩)⟩

/-! ## Integers of 32 bits -/

/-- Integers of 32 bits are long ones in range, but for floating-point numbers. -/
lemma toInt?_eq_bind_toLong? (h : v.isFloating = false) :
    v.toInt? = v.toLong?.bind fun m =>
      if Int32.minValue.toInt ≤ m.toInt ∧ m.toInt ≤ Int32.maxValue.toInt then
        some (Int32.ofInt m.toInt)
      else none := by
  cases v with
  | float _ | double _ => cases h
  | int n =>
    rw [toInt?, toLong?, Option.bind_some, Int32.toInt_toInt64,
      if_pos ⟨n.minValue_le_toInt, n.toInt_le⟩, Int32.ofInt_toInt]
  | str s =>
    unfold toInt?
    dsimp only
    cases (str s).toLong? <;> rfl
  | long _ | null | bool _ | list _ | map _ => rfl

/-- Values other than floating-point numbers are integers of 32 bits if they are long ones in
range. -/
lemma toInt?_eq_some_iff_toLong? (h : v.isFloating = false) {n : Int32} :
    v.toInt? = some n ↔ v.toLong? = some n.toInt64 := by
  have hmin : Int32.minValue.toInt = -2 ^ 31 := by decide
  have hmax : Int32.maxValue.toInt = 2 ^ 31 - 1 := by decide
  rw [toInt?_eq_bind_toLong? h]
  cases v.toLong? with
  | none => exact iff_of_false nofun nofun
  | some m =>
    rw [Option.bind_some, Option.ite_none_right_eq_some, Option.some_inj, Option.some_inj,
      ← Int64.toInt_inj, ← Int32.toInt_inj, Int32.toInt_toInt64]
    constructor
    · rintro ⟨hm, hn⟩
      rwa [Int32.toInt_ofInt_of_le (by omega) (by omega)] at hn
    · intro hm
      have hlower := n.minValue_le_toInt
      have hupper := n.toInt_le
      exact ⟨by omega, by rw [hm, Int32.ofInt_toInt]⟩

/-- **The coercion to an integer of 32 bits is exact but for the values that are misread.** -/
theorem readsExactly_toInt?_iff (v : Value) :
    v.ReadsExactly Int32.minValue.toInt Int32.maxValue.toInt (v.toInt?.map Int32.toInt) ↔
      ¬ v.Misread Int32.minValue.toInt Int32.maxValue.toInt := by
  have hread : v.isFloating = false → ∀ k, v.toInt?.map Int32.toInt = some k ↔
      (Int32.minValue.toInt ≤ k ∧ k ≤ Int32.maxValue.toInt) ∧
        ∃ m, v.toLong? = some m ∧ m.toInt = k := by
    intro hv k
    simp only [Option.map_eq_some_iff, toInt?_eq_some_iff_toLong? hv]
    constructor
    · rintro ⟨n, hn, rfl⟩
      exact ⟨⟨n.minValue_le_toInt, n.toInt_le⟩, _, hn, n.toInt_toInt64⟩
    · rintro ⟨hrange, m, hm, rfl⟩
      obtain ⟨n, hn⟩ := exists_int32 hrange
      obtain rfl : m = n.toInt64 := by rw [← Int64.toInt_inj, Int32.toInt_toInt64, hn]
      exact ⟨n, hm, hn⟩
  cases v with
  | float x =>
    rw [toInt?, Floating.map_toInt32? BinaryFormat.wide_binary32]
    exact readsExactly_keep_iff rfl (by decide)
  | double x =>
    rw [toInt?, Floating.map_toInt32? BinaryFormat.wide_binary64]
    exact readsExactly_keep_iff rfl (by decide)
  | int _ | long _ | str _ | null | bool _ | list _ | map _ =>
    exact readsExactly_iff_of_toLong? rfl (hread rfl)

/-- A number becomes the same integer in both widths, unless it is finite and beyond the shorter
one. -/
lemma toInt32?_iff_toInt64? {f : BinaryFormat} (hf : f.Wide) (x : Floating f) :
    (∀ n : Int32, x.toInt32? = some n ↔ x.toInt64? = some n.toInt64) ↔
      ¬ ∃ p, x.part? = some p ∧ ¬ (Int32.minValue.toInt ≤ p ∧ p ≤ Int32.maxValue.toInt) := by
  simp only [Floating.toInt32?_eq_some_iff hf, Floating.toInt64?_eq_some_iff hf,
    Int32.toInt_toInt64, Option.map_eq_some_iff]
  have hmin : Int64.minValue.toInt < Int32.minValue.toInt := by decide
  have hmid : Int32.minValue.toInt ≤ Int32.maxValue.toInt := by decide
  have hmax : Int32.maxValue.toInt < Int64.maxValue.toInt := by decide
  constructor
  · rintro h ⟨p, hp, hbeyond⟩
    obtain ⟨n, hn⟩ := exists_int32 (keep_bounds hmid p)
    obtain ⟨p', hp', hlong⟩ := (h n).1 ⟨p, hp, hn.symm⟩
    obtain rfl := Option.some.inj (hp.symm.trans hp')
    rw [hn, keep, keep] at hlong
    omega
  · intro h n
    refine exists_congr fun p => and_congr_right fun hp => ?_
    have hrange := not_not.1 fun hbeyond => h ⟨p, hp, hbeyond⟩
    rw [(keep_eq_iff hmid).2 hrange, (keep_eq_iff (by omega)).2 (by omega)]

/-- **Coercions of values to integers.** What is read of a value is the integer part of the number
that it denotes, and nothing where this is beyond the integers of the width, exactly if the value
is not misread in this width. And a value is an integer of 32 bits exactly if it is a long one in
range, unless it is a floating-point number beyond this range.

**Proof sketch.** Integers are read as they are. A floating-point number is kept within the range,
which changes it exactly if it is beyond. A text is misread if a wrong integer of the range is read
of it; by `misread_str_iff` this is the condition of the definition. -/
theorem readsExactly_iff (v : Value) :
    (v.ReadsExactly Int64.minValue.toInt Int64.maxValue.toInt (v.toLong?.map Int64.toInt) ↔
      ¬ v.Misread Int64.minValue.toInt Int64.maxValue.toInt) ∧
    (v.ReadsExactly Int32.minValue.toInt Int32.maxValue.toInt (v.toInt?.map Int32.toInt) ↔
      ¬ v.Misread Int32.minValue.toInt Int32.maxValue.toInt) ∧
    ((∀ n : Int32, v.toInt? = some n ↔ v.toLong? = some n.toInt64) ↔
      ¬ v.Exceeds Int32.minValue.toInt Int32.maxValue.toInt) := by
  refine ⟨readsExactly_toLong?_iff v, readsExactly_toInt?_iff v, ?_⟩
  cases v with
  | float x => exact toInt32?_iff_toInt64? BinaryFormat.wide_binary32 x
  | double x => exact toInt32?_iff_toInt64? BinaryFormat.wide_binary64 x
  | int _ | long _ | str _ | null | bool _ | list _ | map _ =>
    exact iff_of_true (fun _ => toInt?_eq_some_iff_toLong? rfl) nofun

/-- A double beyond the integers of 64 bits becomes the largest one, which is not its integer
part. -/
theorem great_double_kept :
    (Value.double (Floating.ofDecimal false 1 300)).toLong? = some Int64.maxValue ∧
      ¬ (Value.double (Floating.ofDecimal false 1 300)).HasPart Int64.maxValue.toInt := by
  refine ⟨by decide +kernel, fun h => ?_⟩
  obtain ⟨hx, hpart⟩ := Floating.part?_eq_some_iff.1 ((hasPart_iff_floatingPart? rfl).1 h)
  have htruncate := Floating.truncate_eq BinaryFormat.wide_binary64 hx
  rw [hpart] at htruncate
  revert htruncate
  decide +kernel

end Value

end Sift
