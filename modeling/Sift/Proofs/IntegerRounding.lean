import Mathlib.Algebra.Group.Nat.Defs
import Mathlib.Tactic.Lemma
import Sift.Number.Floating

/-!
# Integers rounded to floating-point numbers

Rounding an integer to a format never reverses the order of two integers, and it keeps integers
apart as long as they have no more bits than the format. Both facts are about magnitudes, which
grow with the absolute value, so that the order of the rounded integers is the order of their
ranks.

## Main definitions

* `Sift.BinaryFormat.Wide`: the format has all integers of its precision.
* `Sift.BinaryFormat.gridPoint`: the magnitude of a rounded integer when there is no largest one.

## Main results

* `Sift.Floating.rank_ofInt_le`: rounding keeps the order of integers.
* `Sift.Floating.rank_ofInt_lt`: small integers stay apart.

## Design

The mantissa of a rounded integer lies between `hidden` and `2 * hidden`, both included. Between
two integers with the same number of bits the mantissas decide; otherwise the exponents do, since
a mantissa of `2 * hidden` is at most the first magnitude of the next exponent.
-/

set_option autoImplicit false

namespace Sift

namespace BinaryFormat

/-- All integers of at most `precision` bits are numbers of the format. -/
structure Wide (f : BinaryFormat) : Prop where
  /-- There are significant bits. -/
  precision_pos : 0 < f.precision
  /-- The exponents reach beyond the precision in both directions. -/
  precision_lt : f.precision < 2 ^ (f.exponentBits - 1)

/-- Double precision is wide enough for integers. -/
lemma wide_binary64 : binary64.Wide := ⟨by decide, by decide⟩

variable {f : BinaryFormat}

/-- The leading bit of a mantissa is a positive number. -/
lemma hidden_pos (f : BinaryFormat) : 0 < f.hidden := Nat.two_pow_pos _

/-- The smallest exponent is that of a fraction, even of the number one. -/
lemma minExponent_add_precision_le (hf : f.Wide) : f.minExponent + f.precision ≤ 1 := by
  have h1 := hf.precision_pos
  have h2 := hf.precision_lt
  have h3 : ((Nat.pow 2 (f.exponentBits - 1) : Nat) : Int) =
      ((2 ^ (f.exponentBits - 1) : Nat) : Int) := rfl
  unfold minExponent
  omega

/-- Infinity is a magnitude of the format. -/
lemma infinity_lt_magnitudes (f : BinaryFormat) : f.infinity < f.magnitudes := by
  have hpos : 0 < 2 ^ f.exponentBits := Nat.two_pow_pos _
  have hsplit : f.magnitudes = 2 ^ f.exponentBits * f.hidden := by
    show 2 ^ (f.precision - 1 + f.exponentBits) = 2 ^ f.exponentBits * 2 ^ (f.precision - 1)
    rw [Nat.pow_add, Nat.mul_comm]
  rw [hsplit]
  exact Nat.mul_lt_mul_of_pos_right (Nat.sub_lt hpos Nat.one_pos) f.hidden_pos

/-- Rounding leads to infinity at most. -/
lemma roundRatio_le_infinity (f : BinaryFormat) (num den : Nat) :
    f.roundRatio num den ≤ f.infinity := by
  unfold roundRatio
  split
  · exact Nat.zero_le _
  · exact Nat.min_le_left _ _

/-- A rounded ratio is a magnitude of the format. -/
lemma roundRatio_mod_magnitudes (f : BinaryFormat) (num den : Nat) :
    f.roundRatio num den % f.magnitudes = f.roundRatio num den :=
  Nat.mod_eq_of_lt (Nat.lt_of_le_of_lt (f.roundRatio_le_infinity num den) f.infinity_lt_magnitudes)

/-! ## The grid of an integer -/

/-- The mantissa of a positive integer, rounded. -/
def mantissa (f : BinaryFormat) (n : Nat) : Nat :=
  roundHalfEven (n * 2 ^ (f.precision - 1 - n.log2)) (2 ^ (n.log2 + 1 - f.precision))

/-- The magnitude of a positive integer in a format without a largest number. -/
def gridPoint (f : BinaryFormat) (n : Nat) : Nat :=
  (n.log2 + 1 - f.precision - f.minExponent).toNat * f.hidden + f.mantissa n

/-- An integer has its last place at the exponent that leaves it `precision` bits. -/
lemma exponentOf_one (hf : f.Wide) {n : Nat} (hn : n ≠ 0) :
    f.exponentOf n 1 = n.log2 + 1 - f.precision := by
  have hmin := minExponent_add_precision_le hf
  have hlog : Nat.pow 2 n.log2 ≤ n := Nat.log2_self_le hn
  have h1 : Nat.log2 1 = 0 := by decide
  have ht : ((n.log2 : Int) - ((0 : Nat) : Int)).toNat = n.log2 := by omega
  have ht' : (-((n.log2 : Int) - ((0 : Nat) : Int))).toNat = 0 := by omega
  have hreach : 1 * Nat.pow 2 n.log2 ≤ n * Nat.pow 2 0 := by
    rw [Nat.one_mul, show Nat.pow 2 0 = 1 from rfl, Nat.mul_one]
    exact hlog
  simp only [exponentOf, h1, ht, ht', hreach, if_true]
  omega

/-- Integers are rounded to the nearest point of the grid, or to infinity. -/
lemma roundRatio_one (hf : f.Wide) {n : Nat} (hn : n ≠ 0) :
    f.roundRatio n 1 = min f.infinity (f.gridPoint n) := by
  have hp := hf.precision_pos
  have hneg : (-((n.log2 : Int) + 1 - f.precision)).toNat = f.precision - 1 - n.log2 := by omega
  have hpos : ((n.log2 : Int) + 1 - f.precision).toNat = n.log2 + 1 - f.precision := by omega
  simp only [roundRatio, hn, if_false, exponentOf_one hf hn, gridPoint, mantissa, hneg, hpos,
    Nat.one_mul]
  rfl

/-- The mantissa of an integer that has no more bits than the format is exact. -/
lemma mantissa_of_lt {n : Nat} (h : n.log2 < f.precision) :
    f.mantissa n = n * 2 ^ (f.precision - 1 - n.log2) := by
  have h0 : n.log2 + 1 - f.precision = 0 := by omega
  unfold mantissa
  rw [h0, Nat.pow_zero]
  simpa using roundHalfEven_mul (n * 2 ^ (f.precision - 1 - n.log2)) 1 Nat.one_pos

/-- An exact mantissa stays below the next power of two. -/
lemma mantissa_lt {n : Nat} (h : n.log2 < f.precision) : f.mantissa n < 2 * f.hidden := by
  have hn : n < 2 ^ (n.log2 + 1) := Nat.lt_log2_self
  have hpow : 2 * f.hidden = 2 ^ (n.log2 + 1) * 2 ^ (f.precision - 1 - n.log2) := by
    show 2 * 2 ^ (f.precision - 1) = _
    rw [← Nat.pow_add, Nat.mul_comm, ← Nat.pow_succ]
    congr 1
    omega
  rw [mantissa_of_lt h, hpow]
  exact Nat.mul_lt_mul_of_pos_right hn (Nat.two_pow_pos _)

/-- The mantissa of an integer has its leading bit. -/
lemma hidden_le_mantissa (hf : f.Wide) {n : Nat} (hn : n ≠ 0) : f.hidden ≤ f.mantissa n := by
  have hp := hf.precision_pos
  have hlog : 2 ^ n.log2 ≤ n := Nat.log2_self_le hn
  rcases Nat.lt_or_ge n.log2 f.precision with h | h
  · have hpow : f.hidden = 2 ^ n.log2 * 2 ^ (f.precision - 1 - n.log2) := by
      show 2 ^ (f.precision - 1) = _
      rw [← Nat.pow_add]
      congr 1
      omega
    rw [mantissa_of_lt h, hpow]
    exact Nat.mul_le_mul_right _ hlog
  · have hpow : 2 ^ (f.precision - 1) * 2 ^ (n.log2 + 1 - f.precision) ≤ n := by
      refine Nat.le_trans ?_ hlog
      rw [← Nat.pow_add]
      exact Nat.pow_le_pow_right (by decide) (by omega)
    have h0 : f.precision - 1 - n.log2 = 0 := by omega
    have hdiv : f.hidden ≤ n / 2 ^ (n.log2 + 1 - f.precision) :=
      (Nat.le_div_iff_mul_le (Nat.two_pow_pos _)).2 hpow
    unfold mantissa
    rw [h0, Nat.pow_zero, Nat.mul_one]
    exact Nat.le_trans hdiv (roundHalfEven_bounds _ _).1

/-- The mantissa of an integer has one bit more at most, after it was rounded up. -/
lemma mantissa_le (hf : f.Wide) (n : Nat) : f.mantissa n ≤ 2 * f.hidden := by
  have hp := hf.precision_pos
  rcases Nat.lt_or_ge n.log2 f.precision with h | h
  · exact Nat.le_of_lt (mantissa_lt h)
  · have hn : n < 2 ^ (n.log2 + 1) := Nat.lt_log2_self
    have hpow : 2 ^ (n.log2 + 1) = 2 * f.hidden * 2 ^ (n.log2 + 1 - f.precision) := by
      show _ = 2 * 2 ^ (f.precision - 1) * _
      rw [Nat.mul_comm 2, ← Nat.pow_succ, ← Nat.pow_add]
      congr 1
      omega
    have h0 : f.precision - 1 - n.log2 = 0 := by omega
    have hdiv : n / 2 ^ (n.log2 + 1 - f.precision) < 2 * f.hidden :=
      (Nat.div_lt_iff_lt_mul (Nat.two_pow_pos _)).2 (hpow ▸ hn)
    have hround := (roundHalfEven_bounds n (2 ^ (n.log2 + 1 - f.precision))).2
    unfold mantissa
    rw [h0, Nat.pow_zero, Nat.mul_one]
    omega

/-! ## Order of grid points -/

/-- Greater numbers have no fewer bits. -/
lemma log2_le_log2 {m n : Nat} (hm : m ≠ 0) (h : m ≤ n) : m.log2 ≤ n.log2 :=
  (Nat.le_log2 (by omega)).2 (Nat.le_trans (Nat.log2_self_le hm) h)

/-- The exponent of an integer with more bits lies at least one place higher. -/
lemma place_lt (hf : f.Wide) {m n : Nat} (h : m.log2 < n.log2) :
    (m.log2 + 1 - f.precision - f.minExponent).toNat + 1 ≤
      (n.log2 + 1 - f.precision - f.minExponent).toNat := by
  have hmin := minExponent_add_precision_le hf
  omega

/-- A larger exponent outweighs every mantissa: the mantissa `2 * hidden` is at most the first
magnitude of the next exponent. -/
lemma gridPoint_le_add (hf : f.Wide) {m n : Nat} (hn : n ≠ 0) (h : m.log2 < n.log2) :
    f.gridPoint m + 2 * f.hidden ≤ f.gridPoint n + f.mantissa m := by
  have hplace := Nat.mul_le_mul_right f.hidden (place_lt hf h)
  have hlower := hidden_le_mantissa hf hn
  rw [Nat.succ_mul] at hplace
  unfold gridPoint
  omega

/-- Between integers with the same number of bits the mantissas decide. -/
lemma gridPoint_of_log2_eq {m n : Nat} (h : m.log2 = n.log2) :
    f.gridPoint m + f.mantissa n = f.gridPoint n + f.mantissa m := by
  unfold gridPoint
  rw [h]
  omega

/-- Rounding to the grid keeps the order. -/
lemma gridPoint_le (hf : f.Wide) {m n : Nat} (hm : m ≠ 0) (h : m ≤ n) :
    f.gridPoint m ≤ f.gridPoint n := by
  rcases Nat.lt_or_eq_of_le (log2_le_log2 hm h) with hlt | heq
  · have hstep := gridPoint_le_add hf (by omega : n ≠ 0) hlt
    have hupper := mantissa_le hf m
    omega
  · have hgrid := gridPoint_of_log2_eq (f := f) heq
    have hmant : f.mantissa m ≤ f.mantissa n := by
      unfold mantissa
      rw [heq]
      exact roundHalfEven_mono (Nat.mul_le_mul_right _ h)
    omega

/-- Integers of at most `precision` bits have exact mantissas, so that they stay apart. -/
lemma gridPoint_lt (hf : f.Wide) {m n : Nat} (hm : m ≠ 0) (h : m < n)
    (hn : n ≤ 2 ^ f.precision) : f.gridPoint m < f.gridPoint n := by
  have hmlog : m.log2 < f.precision := (Nat.log2_lt hm).2 (by omega)
  rcases Nat.lt_or_eq_of_le (log2_le_log2 hm (Nat.le_of_lt h)) with hlt | heq
  · have hstep := gridPoint_le_add hf (by omega : n ≠ 0) hlt
    have hupper := mantissa_lt hmlog
    omega
  · have hgrid := gridPoint_of_log2_eq (f := f) heq
    have hmant : f.mantissa m < f.mantissa n := by
      rw [mantissa_of_lt hmlog, mantissa_of_lt (heq ▸ hmlog), heq]
      exact Nat.mul_lt_mul_of_pos_right h (Nat.two_pow_pos _)
    omega

/-- Integers of at most `precision` bits lie below the infinity. -/
lemma gridPoint_le_infinity (hf : f.Wide) {n : Nat} (hn : n ≤ 2 ^ f.precision) :
    f.gridPoint n ≤ f.infinity := by
  have hp := hf.precision_pos
  have hlt := hf.precision_lt
  have hupper := mantissa_le hf n
  have hlog : n.log2 ≤ f.precision := by
    rcases Nat.eq_zero_or_pos n with rfl | hpos
    · exact Nat.zero_le _
    · exact Nat.lt_succ_iff.1
        ((Nat.log2_lt (by omega)).2 (Nat.lt_of_le_of_lt hn (Nat.pow_lt_pow_right (by decide)
          (Nat.lt_succ_self _))))
  have hexp : 2 ^ f.exponentBits = 2 * 2 ^ (f.exponentBits - 1) := by
    rw [Nat.mul_comm, ← Nat.pow_succ]
    congr 1
    have hbits : f.exponentBits ≠ 0 := by
      intro h0
      rw [h0, Nat.zero_sub, Nat.pow_zero] at hlt
      omega
    omega
  have hplace : (n.log2 + 1 - f.precision - f.minExponent).toNat + 2 ≤ 2 ^ f.exponentBits - 1 := by
    have hcast : ((Nat.pow 2 (f.exponentBits - 1) : Nat) : Int) =
        ((2 ^ (f.exponentBits - 1) : Nat) : Int) := rfl
    unfold minExponent
    omega
  have hmul := Nat.mul_le_mul_right f.hidden hplace
  rw [Nat.add_mul] at hmul
  unfold gridPoint
  exact Nat.le_trans (Nat.add_le_add_left hupper _) hmul

/-- Rounding keeps the order of natural numbers. -/
lemma roundRatio_one_le (hf : f.Wide) {m n : Nat} (h : m ≤ n) :
    f.roundRatio m 1 ≤ f.roundRatio n 1 := by
  rcases Nat.eq_zero_or_pos m with rfl | hpos
  · simp [roundRatio]
  · have hgrid := gridPoint_le hf (by omega) h
    rw [roundRatio_one hf (by omega), roundRatio_one hf (by omega)]
    omega

/-- Natural numbers of at most `precision` bits stay apart. -/
lemma roundRatio_one_lt (hf : f.Wide) {m n : Nat} (h : m < n) (hn : n ≤ 2 ^ f.precision) :
    f.roundRatio m 1 < f.roundRatio n 1 := by
  have hinf := gridPoint_le_infinity hf hn
  rw [roundRatio_one hf (by omega : n ≠ 0)]
  rcases Nat.eq_zero_or_pos m with rfl | hpos
  · have hlower := hidden_le_mantissa hf (by omega : n ≠ 0)
    have hhidden := f.hidden_pos
    have hgrid : f.mantissa n ≤ f.gridPoint n := Nat.le_add_left _ _
    simp only [roundRatio, if_true]
    omega
  · have hgrid := gridPoint_lt hf (by omega) h hn
    rw [roundRatio_one hf (by omega)]
    omega

end BinaryFormat

namespace Floating

variable {f : BinaryFormat}

/-- The rank of a rounded integer is its magnitude, or mirrors it below zero. -/
lemma rank_ofInt (n : Int) : (ofInt n : Floating f).rank =
    if n < 0 then -(f.roundRatio n.natAbs 1 : Int) - 1 else f.roundRatio n.natAbs 1 := by
  simp only [ofInt, ofRatio, ofMagnitude, rank, f.roundRatio_mod_magnitudes, decide_eq_true_eq]

/-- Rounding keeps the order of integers. -/
theorem rank_ofInt_le (hf : f.Wide) {m n : Int} (h : m ≤ n) :
    (ofInt m : Floating f).rank ≤ (ofInt n : Floating f).rank := by
  rw [rank_ofInt, rank_ofInt]
  split <;> split
  · have := BinaryFormat.roundRatio_one_le hf (by omega : n.natAbs ≤ m.natAbs)
    omega
  · omega
  · omega
  · have := BinaryFormat.roundRatio_one_le hf (by omega : m.natAbs ≤ n.natAbs)
    omega

/-- Integers of at most `precision` bits stay apart. -/
theorem rank_ofInt_lt (hf : f.Wide) {m n : Int} (h : m < n) (hm : m.natAbs ≤ 2 ^ f.precision)
    (hn : n.natAbs ≤ 2 ^ f.precision) :
    (ofInt m : Floating f).rank < (ofInt n : Floating f).rank := by
  rw [rank_ofInt, rank_ofInt]
  split <;> split
  · have := BinaryFormat.roundRatio_one_lt hf (by omega : n.natAbs < m.natAbs) hm
    omega
  · omega
  · omega
  · have := BinaryFormat.roundRatio_one_lt hf (by omega : m.natAbs < n.natAbs) hn
    omega

end Floating

end Sift
