import Mathlib.Algebra.Order.Field.Rat
import Mathlib.Data.Rat.Cast.Defs
import Mathlib.Tactic.LinearCombination
import Mathlib.Tactic.NormNum
import Sift.Number.Exact
import Sift.Proofs.NearestMagnitude
import Sift.Value.Order

/-!
# Numbers and the bounds of ranges

An aggregation by ranges compares a number as a double with the bounds of a range. A query for a
range converts the bound to the type of the number instead, and orders doubles by their bits. The
two judgments differ for few numbers, which are listed here for each bound: an integer right below
a positive bound with a fraction, an integer that is rounded up to the bound, the largest integer
below a larger bound, and the negative zero below the positive one.

## Main definitions

* `Sift.Floating.scaled`: a number as an integer multiple of the smallest one.
* `Sift.Value.Astray`: the numbers that are judged in two ways.

## Main results

* `Sift.Floating.signed_ofInt_le`, `Sift.Floating.le_signed_ofInt`: a rounded integer does not pass
  a number.
* `Sift.Value.long_reaches_iff`, `Sift.Value.double_reaches_iff`: the two judgments agree for a
  number exactly if it is not astray.
-/

set_option autoImplicit false

namespace Sift

namespace Floating

variable {f : BinaryFormat} {x : Floating f} {n : Int}

/-! ## Numbers as multiples of the smallest one -/

/-- A finite number as an integer multiple of the smallest one. -/
def scaled (x : Floating f) : Int :=
  if x.negative then -(f.units x.magnitude.val : Int) else f.units x.magnitude.val

/-- The denominator of a number is a power of two. -/
lemma ratio_snd_pos (x : Floating f) : 0 < x.ratio.2 := Nat.two_pow_pos _

/-- The ratio of a number in units of the smallest one. -/
lemma ratio_eq_units (hf : f.Wide) (x : Floating f) :
    x.ratio.1 * 2 ^ f.depth = x.ratio.2 * f.units x.magnitude.val := by
  have hmin := BinaryFormat.minExponent_eq hf
  have hplace := f.split_snd x.magnitude.val
  unfold ratio BinaryFormat.units
  dsimp only
  rw [hplace, hmin]
  generalize (f.split x.magnitude.val).1 = k
  generalize f.place x.magnitude.val = j
  have hsum : (-(f.depth : Int) + j).toNat + f.depth = (-(-(f.depth : Int) + j)).toNat + j := by
    omega
  calc k * 2 ^ (-(f.depth : Int) + j).toNat * 2 ^ f.depth
      = k * 2 ^ ((-(f.depth : Int) + j).toNat + f.depth) := by rw [Nat.pow_add, Nat.mul_assoc]
    _ = k * 2 ^ ((-(-(f.depth : Int) + j)).toNat + j) := by rw [hsum]
    _ = 2 ^ (-(-(f.depth : Int) + j)).toNat * (k * 2 ^ j) := by
      rw [Nat.pow_add]
      ring

/-- The value of a number in units of the smallest one. -/
lemma value_eq_scaled (hf : f.Wide) (x : Floating f) :
    x.value = (x.scaled : Rat) / (2 ^ f.depth : Nat) := by
  have hratio := ratio_eq_units hf x
  have hd : (x.ratio.2 : Rat) ≠ 0 := by exact_mod_cast (ratio_snd_pos x).ne'
  have hS : ((2 ^ f.depth : Nat) : Rat) ≠ 0 := by exact_mod_cast (Nat.two_pow_pos f.depth).ne'
  have hcast : (x.ratio.1 : Rat) * (2 ^ f.depth : Nat) =
      x.ratio.2 * f.units x.magnitude.val := by exact_mod_cast hratio
  unfold value scaled
  dsimp only
  rw [Rat.mkRat_eq_div, div_eq_div_iff (by exact_mod_cast hd) hS]
  split
  · push_cast at hcast ⊢
    linear_combination -hcast
  · push_cast at hcast ⊢
    linear_combination hcast

/-- Comparison of a whole number with a floating-point number, in units of the format. -/
lemma lt_value_iff (hf : f.Wide) : (n : Rat) < x.value ↔ n * 2 ^ f.depth < x.scaled := by
  have hpos : (0 : Rat) < (2 ^ f.depth : Nat) := by exact_mod_cast Nat.two_pow_pos f.depth
  rw [value_eq_scaled hf, lt_div_iff₀ hpos]
  exact_mod_cast Iff.rfl

/-- Comparison of a floating-point number with a whole number, in units of the format. -/
lemma value_lt_iff (hf : f.Wide) : x.value < n ↔ x.scaled < n * 2 ^ f.depth := by
  have hpos : (0 : Rat) < (2 ^ f.depth : Nat) := by exact_mod_cast Nat.two_pow_pos f.depth
  rw [value_eq_scaled hf, div_lt_iff₀ hpos]
  exact_mod_cast Iff.rfl

end Floating

/-! ## Rounded integers beside other numbers -/

namespace BinaryFormat

variable {f : BinaryFormat} {m N : Nat}

/-- The units of a magnitude are a multiple of its last place. -/
lemma two_pow_place_dvd_units (f : BinaryFormat) (m : Nat) : 2 ^ f.place m ∣ f.units m :=
  Dvd.intro_left _ rfl

/-- Different multiples of a number are at least that number apart. -/
lemma add_le_of_dvd {a b c : Nat} (ha : c ∣ a) (hb : c ∣ b) (h : a < b) : a + c ≤ b := by
  have hle := Nat.le_of_dvd (Nat.sub_pos_of_lt h) (Nat.dvd_sub hb ha)
  omega

/-- The last place of a number with a fraction lies below one. -/
lemma two_pow_dvd_of_fraction {k : Nat} (hk : 2 ^ f.place k ∣ f.units m)
    (h : ¬ 2 ^ f.depth ∣ f.units m) : 2 ^ f.place k ∣ N * 2 ^ f.depth := by
  have hlt : f.place k < f.depth := Nat.lt_of_not_le fun hle =>
    h (Nat.dvd_trans (Nat.pow_dvd_pow 2 hle) hk)
  exact Nat.dvd_trans (Nat.pow_dvd_pow 2 (Nat.le_of_lt hlt)) (Nat.dvd_mul_left _ _)

variable (hf : f.Wide) (heven : f.hidden % 2 = 0) (hm : m < f.infinity)
  (hfraction : ¬ 2 ^ f.depth ∣ f.units m)

include hf heven hm hfraction

/-- A natural number below a number with a fraction is not rounded up to it. -/
lemma roundRatio_lt_of_fraction (h : N * 2 ^ f.depth < f.units m) : f.roundRatio N 1 < m := by
  cases m with
  | zero => exact absurd (f.units_zero ▸ h) (Nat.not_lt_zero _)
  | succ k =>
    replace h : N * 2 ^ f.depth < f.units (k + 1) := h
    have hsucc := f.units_succ k
    have hdvd : 2 ^ f.place k ∣ f.units (k + 1) :=
      hsucc ▸ Nat.dvd_add (two_pow_place_dvd_units f k) (Nat.dvd_refl _)
    have hstep := add_le_of_dvd (two_pow_dvd_of_fraction hdvd hfraction) hdvd h
    exact Nat.lt_succ_of_le (roundRatio_le hf heven Nat.one_ne_zero (by omega) (by omega))

/-- A natural number above a number with a fraction is not rounded down to it. -/
lemma lt_roundRatio_of_fraction (h : f.units m < N * 2 ^ f.depth) : m < f.roundRatio N 1 := by
  have hsucc := f.units_succ m
  have hdvd := two_pow_place_dvd_units f m
  have hstep := add_le_of_dvd hdvd (two_pow_dvd_of_fraction hdvd hfraction) h
  show m + 1 ≤ _
  exact le_roundRatio hf heven Nat.one_ne_zero hm (by omega)

end BinaryFormat

namespace Floating

variable {f : BinaryFormat} {x : Floating f} {n : Int}

/-- A finite number and its place in the numeric order by the magnitude. -/
lemma scaled_signed (x : Floating f) :
    x.scaled = -(f.units x.magnitude.val : Int) ∧ x.signed = -(x.magnitude.val : Int) ∨
      x.scaled = f.units x.magnitude.val ∧ x.signed = x.magnitude.val := by
  unfold scaled signed
  split
  · exact .inl ⟨rfl, rfl⟩
  · exact .inr ⟨rfl, rfl⟩

/-- An integer and the place of the rounded integer in the numeric order by a natural number. -/
lemma exists_natural (f : BinaryFormat) (n : Int) : ∃ N : Nat,
    n * 2 ^ f.depth = -(N * 2 ^ f.depth : Nat) ∧
        (ofInt n : Floating f).signed = -(f.roundRatio N 1 : Int) ∨
      n * 2 ^ f.depth = (N * 2 ^ f.depth : Nat) ∧
        (ofInt n : Floating f).signed = f.roundRatio N 1 := by
  refine ⟨n.natAbs, ?_⟩
  simp only [ofInt, ofRatio, ofMagnitude, signed, f.roundRatio_mod_magnitudes, decide_eq_true_eq]
  push_cast
  split
  · rw [abs_of_neg (by assumption), neg_mul, neg_neg]
    exact .inl ⟨rfl, rfl⟩
  · rw [abs_of_nonneg (by omega)]
    exact .inr ⟨rfl, rfl⟩

/-- Only zero has no units. -/
lemma magnitude_eq_zero_of_units {m : Nat} (h : f.units m = 0) : m = 0 :=
  f.units_strictMono.injective (h.trans f.units_zero.symm)

/-- A number without its fraction. -/
lemma truncate_eq_tdiv (hf : f.Wide) (hx : x.isFinite = true) :
    x.truncate = some (x.scaled.tdiv (2 ^ f.depth : Nat)) := by
  have hS : 0 < 2 ^ f.depth := Nat.two_pow_pos _
  have hquot : x.ratio.1 / x.ratio.2 = f.units x.magnitude.val / 2 ^ f.depth := by
    rw [← Nat.mul_div_mul_right _ _ hS, ratio_eq_units hf, Nat.mul_div_mul_left _ _ x.ratio_snd_pos]
  unfold truncate scaled
  dsimp only
  rw [if_pos hx, hquot]
  split
  · rw [Int.neg_tdiv]
    rfl
  · rfl

variable (hf : f.Wide) (heven : f.hidden % 2 = 0) (hx : x.isFinite = true)

include hf heven hx

/-- A rounded integer does not pass a number above the integer. -/
theorem signed_ofInt_le (h : n * 2 ^ f.depth ≤ x.scaled) :
    (ofInt n : Floating f).signed ≤ x.signed := by
  obtain ⟨N, hN⟩ := exists_natural f n
  have hm : x.magnitude.val < f.infinity := of_decide_eq_true hx
  have hupper : N * 2 ^ f.depth ≤ 1 * f.units x.magnitude.val →
      f.roundRatio N 1 ≤ x.magnitude.val := BinaryFormat.roundRatio_le hf heven Nat.one_ne_zero hm
  have hlower : 1 * f.units x.magnitude.val ≤ N * 2 ^ f.depth →
      x.magnitude.val ≤ f.roundRatio N 1 :=
    BinaryFormat.le_roundRatio hf heven Nat.one_ne_zero hm.le
  have hzero := magnitude_eq_zero_of_units (f := f) (m := x.magnitude.val)
  rcases hN with hN | hN <;> rcases x.scaled_signed with hx | hx <;> omega

/-- A rounded integer does not pass a number below the integer. -/
theorem le_signed_ofInt (h : x.scaled ≤ n * 2 ^ f.depth) :
    x.signed ≤ (ofInt n : Floating f).signed := by
  obtain ⟨N, hN⟩ := exists_natural f n
  have hm : x.magnitude.val < f.infinity := of_decide_eq_true hx
  have hupper : N * 2 ^ f.depth ≤ 1 * f.units x.magnitude.val →
      f.roundRatio N 1 ≤ x.magnitude.val := BinaryFormat.roundRatio_le hf heven Nat.one_ne_zero hm
  have hlower : 1 * f.units x.magnitude.val ≤ N * 2 ^ f.depth →
      x.magnitude.val ≤ f.roundRatio N 1 :=
    BinaryFormat.le_roundRatio hf heven Nat.one_ne_zero hm.le
  have hzero := magnitude_eq_zero_of_units (f := f) (m := x.magnitude.val)
  rcases hN with hN | hN <;> rcases x.scaled_signed with hx | hx <;> omega

/-- An integer below a number with a fraction is not rounded up to it. -/
lemma signed_ofInt_lt (hfraction : ¬ ((2 ^ f.depth : Nat) : Int) ∣ x.scaled)
    (h : n * 2 ^ f.depth < x.scaled) : (ofInt n : Floating f).signed < x.signed := by
  obtain ⟨N, hN⟩ := exists_natural f n
  have hm : x.magnitude.val < f.infinity := of_decide_eq_true hx
  have hfraction : ¬ 2 ^ f.depth ∣ f.units x.magnitude.val := by
    intro hdvd
    have hcast := Int.natCast_dvd_natCast.2 hdvd
    rcases x.scaled_signed with hx | hx
    · exact hfraction (hx.1 ▸ Int.dvd_neg.2 hcast)
    · exact hfraction (hx.1 ▸ hcast)
  have hlt := BinaryFormat.roundRatio_lt_of_fraction hf heven (N := N) hm hfraction
  have hgt := BinaryFormat.lt_roundRatio_of_fraction hf heven (N := N) hm hfraction
  have hpos : x.magnitude.val ≠ 0 := fun h0 => by
    rw [h0, f.units_zero] at hfraction
    exact hfraction (Nat.dvd_zero _)
  rcases hN with hN | hN <;> rcases x.scaled_signed with hx | hx <;> omega

end Floating

/-! ## Two judgments -/

namespace Value

/-- The values of JSON numbers: integers of 64 bits and finite doubles. -/
inductive Numeric : Value → Prop where
  | long (n : Int64) : Numeric (.long n)
  | double {x : Double} (finite : x.isFinite = true) : Numeric (.double x)

/-- The numbers that do not stand on the same side of a bound when the bound is converted to their
type. -/
inductive Astray (y : Double) : Value → Prop where
  /-- The integer below a positive bound with a fraction: the bound loses its fraction. -/
  | fraction {n : Int64} (nonneg : 0 ≤ n.toInt) (below : (n.toInt : Rat) < y.value)
      (near : y.value < (n.toInt + 1 : Int)) : Astray y (.long n)
  /-- An integer that is rounded up to the bound: the double of the integer is the bound. -/
  | rounded {n : Int64} (least : n ≠ Int64.maxValue) (below : (n.toInt : Rat) < y.value)
      (eq : Floating.ofInt n.toInt = y) : Astray y (.long n)
  /-- The largest integer, below a bound that no integer of 64 bits reaches: the bound becomes the
  largest integer. -/
  | beyond (above : ((2 ^ 63 : Int) : Rat) < y.value) : Astray y (.long Int64.maxValue)
  /-- The negative zero, for the positive one: they are equal numbers with different bits. -/
  | zero (eq : y = Floating.zero false) : Astray y (.double (Floating.zero true))

/-- The leading bit of a double is not its last one. -/
lemma even_hidden_binary64 : binary64.hidden % 2 = 0 := by decide +kernel

/-- A bound in the type of an integer is the bound without its fraction, kept within 64 bits. -/
lemma compareBound_long {y : Double} (hy : y.isFinite = true) (n : Int64) :
    (long n).compareBound (double y) =
      compare n.toInt (max Int64.minValue.toInt (min Int64.maxValue.toInt
        (y.scaled.tdiv (2 ^ binary64.depth : Nat)))) := by
  have hbound : (double y).toLong? = some (Int64.ofInt (max Int64.minValue.toInt
      (min Int64.maxValue.toInt (y.scaled.tdiv (2 ^ binary64.depth : Nat))))) := by
    rw [toLong?, Floating.toInt64?, if_pos hy, Floating.clampWith,
      Floating.truncate_eq_tdiv BinaryFormat.wide_binary64 hy]
  have hlower : Int64.minValue.toInt = -2 ^ 63 := by decide
  have hupper : Int64.maxValue.toInt = 2 ^ 63 - 1 := by decide
  rw [compareBound, hbound]
  dsimp only
  rw [Int64.toInt_ofInt_of_le (by omega) (by omega)]

/-- Truncation rounds up what is not positive. -/
lemma tdiv_of_nonpos {z S : Int} (hz : z ≤ 0) : z.tdiv S = -(-z / S) := by
  rw [← Int.tdiv_eq_ediv_of_nonneg (by omega), Int.neg_tdiv, Int.neg_neg]

/-- A quotient without its fraction does not pass an integer below the quotient unless it meets
it, and then the integer is not negative. -/
lemma tdiv_le_iff {z S N : Int} (hS : 0 < S) (h : N * S < z) :
    z.tdiv S ≤ N ↔ 0 ≤ N ∧ z < (N + 1) * S := by
  rcases Int.le_total 0 z with hz | hz
  · rw [Int.tdiv_eq_ediv_of_nonneg hz, ← Int.lt_add_one_iff, Int.ediv_lt_iff_lt_mul hS]
    refine (and_iff_right_of_imp fun hlt => ?_).symm
    have hpos := pos_of_mul_pos_left (Int.lt_of_le_of_lt hz hlt) hS.le
    omega
  · have hneg : N < 0 := by
      by_contra hN
      have hmul := mul_nonneg (Int.not_lt.1 hN) hS.le
      omega
    have hlt : N < z.tdiv S := by
      have htdiv := tdiv_of_nonpos (S := S) hz
      have hquot : -z / S < -N := by
        rw [Int.ediv_lt_iff_lt_mul hS, Int.neg_mul]
        omega
      omega
    exact iff_of_false (Int.not_le.2 hlt) fun h => Int.not_le.2 hneg h.1

/-- A quotient that is cut off is bounded by what bounds the number. -/
lemma tdiv_le_of_le {z S N : Int} (hS : 0 < S) (h : z ≤ N * S) : z.tdiv S ≤ N := by
  rcases Int.le_total 0 z with hz | hz
  · rw [Int.tdiv_eq_ediv_of_nonneg hz]
    exact Int.ediv_le_of_le_mul hS h
  · have htdiv := tdiv_of_nonpos (S := S) hz
    have hquot : -N ≤ -z / S := by
      rw [Int.le_ediv_iff_mul_le hS, Int.neg_mul]
      omega
    omega

/-- Numbers at the same place of the numeric order other than zero are equal. -/
lemma eq_of_signed_eq {f : BinaryFormat} {x y : Floating f} (h : x.signed = y.signed)
    (hne : x.signed ≠ 0) : x = y := by
  obtain ⟨xs, xm⟩ := x
  obtain ⟨ys, ym⟩ := y
  simp only [Floating.signed] at h hne
  cases xs <;> cases ys <;> simp only [if_true, if_false, Bool.false_eq_true] at h hne
  · rw [Fin.ext (by omega : xm.val = ym.val)]
  · omega
  · omega
  · rw [Fin.ext (by omega : xm.val = ym.val)]

/-- An integer that is rounded to the place of a number above it is rounded to this number. -/
lemma ofInt_eq_of_signed_eq {y : Double} {n : Int}
    (hbelow : n * 2 ^ binary64.depth < y.scaled)
    (h : (Floating.ofInt n : Double).signed = y.signed) : Floating.ofInt n = y := by
  refine eq_of_signed_eq h fun h0 => ?_
  have hS : (0 : Int) < 2 ^ binary64.depth := by positivity
  have hy : y.scaled = 0 := by
    rcases y.scaled_signed with hy | hy
    · have hm : y.magnitude.val = 0 := by omega
      rw [hy.1, hm, BinaryFormat.units_zero]
      rfl
    · have hm : y.magnitude.val = 0 := by omega
      rw [hy.1, hm, BinaryFormat.units_zero]
      rfl
  have hn : n ≤ -1 := by
    by_contra hn
    have hmul := mul_nonneg (by omega : 0 ≤ n) hS.le
    omega
  have hle := Floating.signed_ofInt_le (n := n) (x := Floating.ofInt (-1))
    BinaryFormat.wide_binary64 even_hidden_binary64 (by decide +kernel) (by
      have hone : (Floating.ofInt (-1) : Double).scaled = -1 * 2 ^ binary64.depth := by
        decide +kernel
      rw [hone]
      exact Int.mul_le_mul_of_nonneg_right hn hS.le)
  have hneg : (Floating.ofInt (-1) : Double).signed < 0 := by decide +kernel
  omega

/-- The double that the largest integer is rounded to lies above it. -/
lemma ofInt_maxValue : (Floating.ofInt Int64.maxValue.toInt : Double) = Floating.ofInt (2 ^ 63) ∧
    (Floating.ofInt (2 ^ 63) : Double).scaled = 2 ^ 63 * 2 ^ binary64.depth := by
  decide +kernel

/-- **Integers that are astray**, in units of the format: the fraction of a bound above them was cut
off, they were rounded up to the bound, or they are the greatest integer and the bound is greater.
-/
theorem astray_long_iff {y : Double} {n : Int64} : Astray y (long n) ↔
    n.toInt * 2 ^ binary64.depth < y.scaled ∧
      (0 ≤ n.toInt ∧ y.scaled < (n.toInt + 1) * 2 ^ binary64.depth ∨
        n ≠ Int64.maxValue ∧ Floating.ofInt n.toInt = y ∨
        n = Int64.maxValue ∧ 2 ^ 63 * 2 ^ binary64.depth < y.scaled) := by
  have hwide := BinaryFormat.wide_binary64
  constructor
  · intro h
    cases h with
    | fraction nonneg below near =>
      exact ⟨(Floating.lt_value_iff hwide).1 below,
        .inl ⟨nonneg, (Floating.value_lt_iff hwide).1 near⟩⟩
    | rounded least below eq =>
      exact ⟨(Floating.lt_value_iff hwide).1 below, .inr (.inl ⟨least, eq⟩)⟩
    | beyond above =>
      have habove := (Floating.lt_value_iff hwide).1 above
      have hmax : Int64.maxValue.toInt ≤ 2 ^ 63 := by decide
      have hle := Int.mul_le_mul_of_nonneg_right hmax
        (by positivity : (0 : Int) ≤ 2 ^ binary64.depth)
      exact ⟨Int.lt_of_le_of_lt hle habove, .inr (.inr ⟨rfl, habove⟩)⟩
  · rintro ⟨hbelow, ⟨hnonneg, hnear⟩ | ⟨hleast, heq⟩ | ⟨rfl, habove⟩⟩
    · exact .fraction hnonneg ((Floating.lt_value_iff hwide).2 hbelow)
        ((Floating.value_lt_iff hwide).2 hnear)
    · exact .rounded hleast ((Floating.lt_value_iff hwide).2 hbelow) heq
    · exact .beyond ((Floating.lt_value_iff hwide).2 habove)

/-- The largest integer is rounded to the bound that lies one above it. -/
lemma ofInt_maxValue_eq_iff {y : Double} (hy : y.isFinite = true) :
    Floating.ofInt Int64.maxValue.toInt = y ↔ y.scaled = 2 ^ 63 * 2 ^ binary64.depth := by
  rw [ofInt_maxValue.1]
  constructor
  · rintro rfl
    exact ofInt_maxValue.2
  · intro h
    have hle := Floating.signed_ofInt_le BinaryFormat.wide_binary64 even_hidden_binary64 hy h.ge
    have hge := Floating.le_signed_ofInt BinaryFormat.wide_binary64 even_hidden_binary64 hy h.le
    have hne : (Floating.ofInt (2 ^ 63) : Double).signed ≠ 0 := by decide +kernel
    exact eq_of_signed_eq (Int.le_antisymm hle hge) hne

/-- Two statements that exclude each other are equivalent if neither holds. -/
lemma iff_iff_not_or {P Q : Prop} (h : P → ¬ Q) : (P ↔ Q) ↔ ¬ (P ∨ Q) := by tauto

/-- What lies between two multiples that follow each other is none. -/
lemma not_dvd_of_between {z S N : Int} (hS : 0 < S) (hlower : N * S < z)
    (hupper : z < (N + 1) * S) : ¬ S ∣ z := by
  rintro ⟨q, rfl⟩
  rw [Int.mul_comm S q] at hlower hupper
  have hgt := lt_of_mul_lt_mul_right hlower hS.le
  have hlt := lt_of_mul_lt_mul_right hupper hS.le
  omega

/-- **Integers and bounds.** The two judgments of an integer by a bound agree exactly if the integer
is not astray.

**Proof sketch.** An integer that reaches the bound does so in both judgments. Below the bound, the
rounded integer reaches the bound only if it is the bound, and the integer reaches the bound without
its fraction only if the bound is less than one above it, or if the integer is the largest one. The
first two do not happen together, since no integer is rounded to a number with a fraction. -/
theorem long_reaches_iff {y : Double} (hy : y.isFinite = true) (n : Int64) :
    ((long n).compareBound (double y) ≠ .lt ↔
      y.signed ≤ (Floating.ofInt n.toInt : Double).signed) ↔ ¬ Astray y (long n) := by
  have hwide := BinaryFormat.wide_binary64
  have heven := even_hidden_binary64
  have hS : (0 : Int) < 2 ^ binary64.depth := by positivity
  have hcompare : (long n).compareBound (double y) ≠ .lt ↔
      Int64.maxValue.toInt ≤ n.toInt ∨ y.scaled.tdiv (2 ^ binary64.depth) ≤ n.toInt := by
    have hlower := n.le_toInt
    have hmin : Int64.minValue.toInt = -2 ^ 63 := by decide
    rw [compareBound_long hy, Ne, Int.compare_eq_lt]
    push_cast
    omega
  rw [hcompare, astray_long_iff]
  rcases Int.lt_or_le (n.toInt * 2 ^ binary64.depth) y.scaled with hbelow | habove
  · have hle := Floating.signed_ofInt_le hwide heven hy hbelow.le
    have hcounted : y.signed ≤ (Floating.ofInt n.toInt : Double).signed ↔
        Floating.ofInt n.toInt = y :=
      ⟨fun h => ofInt_eq_of_signed_eq hbelow (by omega), fun h => by rw [h]⟩
    rw [hcounted, tdiv_le_iff hS hbelow, and_iff_right hbelow]
    rcases eq_or_ne n Int64.maxValue with rfl | hn
    · have hsucc : Int64.maxValue.toInt + 1 = 2 ^ 63 := by decide
      have hnonneg : (0 : Int) ≤ Int64.maxValue.toInt := by decide
      have hself : Int64.maxValue.toInt ≤ Int64.maxValue.toInt := Int.le_refl _
      rw [ofInt_maxValue_eq_iff hy, hsucc]
      simp only [hself, hnonneg, true_or, true_and, true_iff, ne_eq, not_true_eq_false, false_and,
        false_or]
      omega
    · have hmax : ¬ Int64.maxValue.toInt ≤ n.toInt := fun hmax =>
        hn (Int64.toInt_inj.1 (Int.le_antisymm n.toInt_le hmax))
      have hfraction : 0 ≤ n.toInt ∧ y.scaled < (n.toInt + 1) * 2 ^ binary64.depth →
          Floating.ofInt n.toInt ≠ y := by
        intro hnear heq
        have hnone : ¬ ((2 ^ binary64.depth : Nat) : Int) ∣ y.scaled :=
          not_dvd_of_between (by exact_mod_cast hS) (by exact_mod_cast hbelow)
            (by exact_mod_cast hnear.2)
        have hlt := Floating.signed_ofInt_lt hwide heven hy hnone hbelow
        rw [heq] at hlt
        exact Int.lt_irrefl _ hlt
      simp only [hmax, false_or, hn, ne_eq, not_false_eq_true, true_and, false_and, or_false]
      exact iff_iff_not_or hfraction
  · have hreaches := Floating.le_signed_ofInt hwide heven hy habove
    have hquot := tdiv_le_of_le hS habove
    exact iff_of_true (iff_of_true (.inr hquot) hreaches) fun h => Int.not_lt.2 habove h.1

/-- **Doubles that are astray.** Negative zero is, at the bound zero. -/
theorem astray_double_iff {x y : Double} :
    Astray y (double x) ↔ x = Floating.zero true ∧ y = Floating.zero false := by
  constructor
  · rintro ⟨⟩
    exact ⟨rfl, by assumption⟩
  · rintro ⟨rfl, hy⟩
    exact .zero hy

/-- **Doubles and bounds.** The two judgments of a double by a bound agree exactly if it is not the
negative zero below the positive one. -/
theorem double_reaches_iff (x y : Double) :
    ((double x).compareBound (double y) ≠ .lt ↔ y.signed ≤ x.signed) ↔ ¬ Astray y (double x) := by
  have hcompare : (double x).compareBound (double y) ≠ .lt ↔ y.rank ≤ x.rank := by
    show compare x.rank y.rank ≠ .lt ↔ _
    rw [Ne, Int.compare_eq_lt, Int.not_lt]
  rw [hcompare, astray_double_iff]
  obtain ⟨xs, xm⟩ := x
  obtain ⟨ys, ym⟩ := y
  simp only [Floating.rank, Floating.signed, Floating.zero, Floating.ofMagnitude,
    Floating.mk.injEq, Fin.ext_iff, Nat.zero_mod]
  cases xs <;> cases ys <;> simp <;> omega

/-- **Numbers and bounds.** The two judgments of a number by a bound agree exactly if the number is
not astray. -/
theorem Numeric.reaches_iff {v : Value} (hv : v.Numeric) {x y : Double}
    (hx : v.toDouble? = some x) (hy : y.isFinite = true) :
    (v.compareBound (.double y) ≠ .lt ↔ y.signed ≤ x.signed) ↔ ¬ Astray y v := by
  cases hv with
  | long n =>
    obtain rfl := Option.some.inj hx
    exact long_reaches_iff hy n
  | double _ =>
    obtain rfl := Option.some.inj hx
    exact double_reaches_iff _ y

/-- A value that is numeric has a double, which is a number. -/
lemma Numeric.exists_toDouble? {v : Value} (hv : v.Numeric) :
    ∃ x, v.toDouble? = some x ∧ x.isNaN = false := by
  cases hv with
  | long n =>
    refine ⟨_, rfl, decide_eq_false (Nat.not_lt.2 ?_)⟩
    exact Nat.le_trans (Nat.mod_le _ _) (binary64.roundRatio_le_infinity _ _)
  | double finite =>
    exact ⟨_, rfl, Floating.isNaN_of_isFinite finite⟩

end Value

end Sift
