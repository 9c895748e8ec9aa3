import Mathlib.Order.Monotone.Basic
import Mathlib.Tactic.Ring
import Sift.Proofs.IntegerRounding

/-!
# The magnitude nearest to a ratio

The finite numbers of a format are multiples of the smallest one, and their magnitudes number them
without a gap. Rounding a ratio is therefore decided by the midpoints between numbers that follow
each other: the rounded ratio lies beyond a number if the ratio lies beyond the midpoint to the next
number, or at a midpoint whose lower end is odd. Everything else about rounding follows from this
one equivalence.

## Main definitions

* `Sift.BinaryFormat.units`: a number as a multiple of the smallest one.
* `Sift.BinaryFormat.place`: the place of the last digit of a number.

## Main results

* `Sift.BinaryFormat.units_strictMono`: magnitudes grow with the numbers.
* `Sift.BinaryFormat.lt_roundRatio_iff`: rounding is decided by midpoints.
* `Sift.BinaryFormat.le_roundRatio`, `Sift.BinaryFormat.roundRatio_le`: rounding does not pass a
  number of the format.
-/

set_option autoImplicit false

namespace Sift

/-- A quotient is rounded beyond an integer if it lies beyond the midpoint to the next one, or at
the midpoint to the next one if that is even. -/
lemma lt_roundHalfEven_iff {n d k : Nat} (hd : 0 < d) :
    k < roundHalfEven n d ↔ (2 * k + 1) * d < 2 * n ∨ (2 * k + 1) * d = 2 * n ∧ k % 2 = 1 := by
  have hn : n / d * d + n % d = n := Nat.div_add_mod' n d
  have hr : n % d < d := Nat.mod_lt n hd
  have hmid : (2 * k + 1) * d = 2 * (k * d) + d := by ring
  unfold roundHalfEven
  dsimp only
  rcases Nat.lt_trichotomy k (n / d) with hlt | rfl | hgt
  · have hmul : (k + 1) * d ≤ n / d * d := Nat.mul_le_mul_right d hlt
    have hsucc : (k + 1) * d = k * d + d := Nat.succ_mul k d
    split <;> omega
  · split <;> omega
  · have hmul : (n / d + 1) * d ≤ k * d := Nat.mul_le_mul_right d hgt
    have hsucc : (n / d + 1) * d = n / d * d + d := Nat.succ_mul _ d
    split <;> omega

/-- A quotient is not rounded to less than an integer that it reaches. -/
lemma le_roundHalfEven {n d k : Nat} (hd : 0 < d) (h : k * d ≤ n) : k ≤ roundHalfEven n d :=
  Nat.le_trans ((Nat.le_div_iff_mul_le hd).2 h) (roundHalfEven_bounds n d).1

/-- A quotient is not rounded to more than an integer that it does not reach. -/
lemma roundHalfEven_le {n d k : Nat} (hd : 0 < d) (h : n < k * d) : roundHalfEven n d ≤ k :=
  Nat.le_trans (roundHalfEven_bounds n d).2 ((Nat.div_lt_iff_lt_mul hd).2 h)

/-- Rounding does not depend on the terms of a quotient. -/
lemma roundHalfEven_mul_right {n d c : Nat} (hd : 0 < d) (hc : 0 < c) :
    roundHalfEven (n * c) (d * c) = roundHalfEven n d := by
  have hiff : ∀ k, k < roundHalfEven (n * c) (d * c) ↔ k < roundHalfEven n d := by
    intro k
    have hleft : (2 * k + 1) * (d * c) = (2 * k + 1) * d * c := (Nat.mul_assoc _ d c).symm
    have hright : 2 * (n * c) = 2 * n * c := (Nat.mul_assoc 2 n c).symm
    rw [lt_roundHalfEven_iff (Nat.mul_pos hd hc), lt_roundHalfEven_iff hd, hleft, hright,
      Nat.mul_lt_mul_right hc, Nat.mul_left_inj (Nat.pos_iff_ne_zero.1 hc)]
  have hle := hiff (roundHalfEven (n * c) (d * c))
  have hge := hiff (roundHalfEven n d)
  omega

namespace BinaryFormat

variable {f : BinaryFormat}

/-! ## Numbers as multiples of the smallest one -/

/-- The place of the last digit of a number, counted from that of the smallest one. -/
def place (f : BinaryFormat) (m : Nat) : Nat := m / f.hidden - 1

/-- A number as a multiple of the smallest one. Magnitudes beyond the finite ones count on. -/
def units (f : BinaryFormat) (m : Nat) : Nat := (f.split m).1 * 2 ^ f.place m

/-- The exponent of a magnitude is that of its last place. -/
lemma split_snd (f : BinaryFormat) (m : Nat) :
    (f.split m).2 = f.minExponent + (f.place m : Nat) := by
  unfold split place
  dsimp only
  split
  · rename_i h
    rw [h]
    exact (Int.add_zero _).symm
  · rfl

/-- The magnitude of a mantissa at a place. -/
lemma units_add {k : Nat} (j : Nat) (hlower : f.hidden ≤ k ∨ j = 0) (hupper : k < 2 * f.hidden) :
    f.place (j * f.hidden + k) = j ∧ f.units (j * f.hidden + k) = k * 2 ^ j := by
  have hpos := f.hidden_pos
  unfold units place split
  dsimp only
  rcases Nat.lt_or_ge k f.hidden with hk | hk
  · obtain rfl : j = 0 := hlower.resolve_left (Nat.not_le.2 hk)
    rw [Nat.zero_mul, Nat.zero_add, Nat.div_eq_of_lt hk, Nat.mod_eq_of_lt hk, if_pos rfl]
    exact ⟨rfl, rfl⟩
  · have hsum : j * f.hidden + k = (k - f.hidden) + (j + 1) * f.hidden := by
      rw [Nat.succ_mul]
      omega
    have hrest : k - f.hidden < f.hidden := by omega
    rw [hsum, Nat.add_mul_div_right _ _ hpos, Nat.add_mul_mod_self_right, Nat.div_eq_of_lt hrest,
      Nat.mod_eq_of_lt hrest, if_neg (by omega)]
    have hplace : 0 + (j + 1) - 1 = j := by omega
    have hk' : k - f.hidden + f.hidden = k := by omega
    rw [hplace, hk']
    exact ⟨rfl, rfl⟩

/-- Every magnitude is that of a mantissa at its place. -/
lemma exists_mantissa (f : BinaryFormat) (m : Nat) :
    ∃ k, m = f.place m * f.hidden + k ∧ (f.hidden ≤ k ∨ f.place m = 0) ∧ k < 2 * f.hidden := by
  have hpos := f.hidden_pos
  have hdiv : m / f.hidden * f.hidden + m % f.hidden = m := Nat.div_add_mod' m f.hidden
  have hmod : m % f.hidden < f.hidden := Nat.mod_lt m hpos
  unfold place
  cases hfield : m / f.hidden with
  | zero =>
    rw [hfield, Nat.zero_mul] at hdiv
    exact ⟨m, by omega, .inr rfl, by omega⟩
  | succ j =>
    rw [hfield, Nat.succ_mul] at hdiv
    exact ⟨m % f.hidden + f.hidden, by rw [Nat.add_sub_cancel]; omega, .inl (by omega), by omega⟩

/-- The next number is one digit at the last place away. -/
lemma units_succ (f : BinaryFormat) (m : Nat) :
    f.units (m + 1) = f.units m + 2 ^ f.place m := by
  obtain ⟨k, hm, hlower, hupper⟩ := f.exists_mantissa m
  generalize f.place m = j at hm hlower
  have hpos := f.hidden_pos
  rw [hm, (units_add j hlower hupper).2, ← Nat.succ_mul]
  rcases Nat.lt_or_ge (k + 1) (2 * f.hidden) with hk | hk
  · rw [Nat.add_assoc, (units_add j (by omega) hk).2]
  · -- The mantissa carries into the next place.
    have hcarry : j * f.hidden + k + 1 = (j + 1) * f.hidden + f.hidden := by
      rw [Nat.succ_mul]
      omega
    have hk' : k.succ = f.hidden * 2 := by omega
    rw [hcarry, (units_add (j + 1) (.inl (Nat.le_refl _)) (by omega)).2, hk', Nat.pow_succ',
      Nat.mul_assoc]

/-- **Magnitudes grow with the numbers.** -/
theorem units_strictMono (f : BinaryFormat) : StrictMono f.units :=
  strictMono_nat_of_lt_succ fun m => by
    rw [units_succ]
    exact Nat.lt_add_of_pos_right (Nat.two_pow_pos _)

/-- The units of a magnitude are its mantissa at its last place. -/
lemma units_eq_mantissa (f : BinaryFormat) (m : Nat) :
    f.units m = (f.split m).1 * 2 ^ f.place m := rfl

/-- A magnitude by its mantissa and its place. -/
lemma eq_place_add_mantissa (f : BinaryFormat) (m : Nat) :
    m = f.place m * f.hidden + (f.split m).1 ∧
      (f.hidden ≤ (f.split m).1 ∨ f.place m = 0) ∧ (f.split m).1 < 2 * f.hidden := by
  obtain ⟨k, hm, hlower, hupper⟩ := f.exists_mantissa m
  have hk : (f.split m).1 = k := by
    have hunits := (units_add (f.place m) hlower hupper).2
    rw [← hm] at hunits
    exact Nat.eq_of_mul_eq_mul_right (Nat.two_pow_pos _) hunits
  rw [hk]
  exact ⟨hm, hlower, hupper⟩

/-- The mantissa of a magnitude is odd where the magnitude is. -/
lemma mantissa_mod_two (heven : f.hidden % 2 = 0) (m : Nat) : (f.split m).1 % 2 = m % 2 := by
  have hm := (f.eq_place_add_mantissa m).1
  have hprod : f.place m * f.hidden % 2 = 0 := by rw [Nat.mul_mod, heven]; rfl
  omega

/-- The numbers up to those of lower places lie below the smallest mantissa of a place. -/
lemma units_succ_le_of_place_lt {m j : Nat} (h : f.place m < j) :
    m + 1 ≤ j * f.hidden + f.hidden ∧ f.units (m + 1) ≤ f.hidden * 2 ^ j := by
  have hpos := f.hidden_pos
  obtain ⟨k, hm, -, hupper⟩ := f.exists_mantissa m
  have hle : m + 1 ≤ j * f.hidden + f.hidden := by
    have hmul : (f.place m + 1) * f.hidden ≤ j * f.hidden := Nat.mul_le_mul_right _ h
    rw [Nat.succ_mul] at hmul
    omega
  refine ⟨hle, ?_⟩
  rw [← (units_add j (.inl (Nat.le_refl _)) (by omega)).2]
  exact f.units_strictMono.monotone hle

/-- The numbers of higher places lie above all mantissas of a place. -/
lemma le_units_of_lt_place {m j : Nat} (h : j < f.place m) :
    (j + 1) * f.hidden + f.hidden ≤ m ∧ 2 * f.hidden * 2 ^ j ≤ f.units m := by
  have hpos := f.hidden_pos
  obtain ⟨k, hm, hlower, -⟩ := f.exists_mantissa m
  have hle : (j + 1) * f.hidden + f.hidden ≤ m := by
    have hmul : (j + 1) * f.hidden ≤ f.place m * f.hidden := Nat.mul_le_mul_right _ h
    omega
  refine ⟨hle, ?_⟩
  calc 2 * f.hidden * 2 ^ j = f.hidden * 2 ^ (j + 1) := by ring
    _ = f.units ((j + 1) * f.hidden + f.hidden) :=
      (units_add (j + 1) (.inl (Nat.le_refl _)) (by omega)).2.symm
    _ ≤ f.units m := f.units_strictMono.monotone hle

/-- Zero has no units. -/
lemma units_zero (f : BinaryFormat) : f.units 0 = 0 := by
  have hunits := (units_add (f := f) 0 (k := 0) (.inr rfl) (by have := f.hidden_pos; omega)).2
  rw [Nat.zero_mul, Nat.zero_mul] at hunits
  exact hunits

/-! ## The place of a ratio -/

section

variable {num den : Nat}

/-- Comparing a ratio with a power of two by the numbers of bits of its terms, where both sides are
multiplied by a power of two. -/
lemma two_pow_le_of_log2 (hn : num ≠ 0) {S x : Nat}
    (h : (x : Int) < num.log2 - den.log2 + S) : den * 2 ^ x ≤ num * 2 ^ S := by
  have hden : den < 2 ^ (den.log2 + 1) := Nat.lt_log2_self
  have hnum : 2 ^ num.log2 ≤ num := Nat.log2_self_le hn
  calc den * 2 ^ x ≤ 2 ^ (den.log2 + 1) * 2 ^ x := Nat.mul_le_mul_right _ (Nat.le_of_lt hden)
    _ = 2 ^ (den.log2 + 1 + x) := (Nat.pow_add ..).symm
    _ ≤ 2 ^ (num.log2 + S) := Nat.pow_le_pow_right (by decide) (by omega)
    _ = 2 ^ num.log2 * 2 ^ S := Nat.pow_add ..
    _ ≤ num * 2 ^ S := Nat.mul_le_mul_right _ hnum

/-- A quotient is bounded by a power of two that is given by the lengths of its terms. -/
lemma lt_two_pow_of_log2 (hd : den ≠ 0) {S x : Nat}
    (h : num.log2 - den.log2 + S < (x : Int)) : num * 2 ^ S < den * 2 ^ x := by
  have hnum : num < 2 ^ (num.log2 + 1) := Nat.lt_log2_self
  have hden : 2 ^ den.log2 ≤ den := Nat.log2_self_le hd
  calc num * 2 ^ S < 2 ^ (num.log2 + 1) * 2 ^ S :=
        Nat.mul_lt_mul_of_pos_right hnum (Nat.two_pow_pos _)
    _ = 2 ^ (num.log2 + 1 + S) := (Nat.pow_add ..).symm
    _ ≤ 2 ^ (den.log2 + x) := Nat.pow_le_pow_right (by decide) (by omega)
    _ = 2 ^ den.log2 * 2 ^ x := Nat.pow_add ..
    _ ≤ den * 2 ^ x := Nat.mul_le_mul_right _ hden

/-- Comparing a ratio with a power does not depend on the power by which both sides are
multiplied. -/
lemma pow_le_iff {b : Nat} (hb : 0 < b) {t : Int} {S x : Nat} (h : t + S = x) :
    den * b ^ t.toNat ≤ num * b ^ (-t).toNat ↔ den * b ^ x ≤ num * b ^ S := by
  have hS : S = (-t).toNat + (S - (-t).toNat) := by omega
  have hx : x = t.toNat + (S - (-t).toNat) := by omega
  generalize S - (-t).toNat = c at hS hx
  rw [hS, hx, Nat.pow_add, Nat.pow_add, ← Nat.mul_assoc, ← Nat.mul_assoc,
    Nat.mul_le_mul_right_iff (Nat.pow_pos hb)]

end

/-- How many places the smallest number lies below one. -/
def depth (f : BinaryFormat) : Nat := (-f.minExponent).toNat

/-- The least exponent is the depth of the format. -/
lemma minExponent_eq (hf : f.Wide) : f.minExponent = -(f.depth : Int) := by
  have hmin := minExponent_add_precision_le hf
  have hprecision := hf.precision_pos
  unfold depth
  omega

/-- The exponent of a ratio leaves a quotient of `precision` bits, or of fewer ones at the smallest
exponent. -/
lemma exists_exponentOf (hf : f.Wide) {num den : Nat} (hn : num ≠ 0) (hd : den ≠ 0) :
    ∃ j : Nat, f.exponentOf num den = f.minExponent + j ∧
      num * 2 ^ f.depth < den * (2 * f.hidden * 2 ^ j) ∧
      (j = 0 ∨ den * (f.hidden * 2 ^ j) ≤ num * 2 ^ f.depth) := by
  have hmin := minExponent_eq hf
  have hprecision := hf.precision_pos
  have hhidden : ∀ j, f.hidden * 2 ^ j = 2 ^ (f.precision - 1 + j) := fun j =>
    (Nat.pow_add ..).symm
  have hdouble : ∀ j, 2 * f.hidden * 2 ^ j = 2 ^ (f.precision + j) := by
    intro j
    rw [Nat.mul_assoc, hhidden, ← Nat.pow_succ']
    congr 1
    omega
  simp only [hhidden, hdouble]
  unfold exponentOf
  simp only [Nat.pow_eq]
  generalize ht : (num.log2 : Int) - den.log2 = t
  split
  · rename_i hreaches
    refine ⟨(t + 1 - f.precision + f.depth).toNat, by omega, ?_, ?_⟩
    · exact lt_two_pow_of_log2 hd (by omega)
    · refine or_iff_not_imp_left.2 fun hj => ?_
      exact (pow_le_iff Nat.two_pos (by omega)).1 hreaches
  · rename_i hreaches
    refine ⟨(t - f.precision + f.depth).toNat, by omega, ?_, ?_⟩
    · rcases Int.lt_or_le t (f.precision - f.depth) with hlow | hhigh
      · exact lt_two_pow_of_log2 hd (by omega)
      · exact Nat.lt_of_not_ge fun hle => hreaches ((pow_le_iff Nat.two_pos (by omega)).2 hle)
    · refine or_iff_not_imp_left.2 fun hj => ?_
      exact two_pow_le_of_log2 hn (by omega)

/-! ## Rounding -/

/-- What `roundRatio` rounds, at the place of the ratio. -/
lemma roundRatio_eq (hf : f.Wide) {num den : Nat} (hn : num ≠ 0) (hd : den ≠ 0) :
    ∃ j : Nat, f.roundRatio num den =
        min f.infinity (j * f.hidden + roundHalfEven (num * 2 ^ f.depth) (den * 2 ^ j)) ∧
      num * 2 ^ f.depth < den * (2 * f.hidden * 2 ^ j) ∧
      (j = 0 ∨ den * (f.hidden * 2 ^ j) ≤ num * 2 ^ f.depth) := by
  obtain ⟨j, he, hupper, hlower⟩ := exists_exponentOf hf hn hd
  refine ⟨j, ?_, hupper, hlower⟩
  have hmin := minExponent_eq hf
  have hround : roundHalfEven (num * 2 ^ (-f.exponentOf num den).toNat)
      (den * 2 ^ (f.exponentOf num den).toNat) =
        roundHalfEven (num * 2 ^ f.depth) (den * 2 ^ j) := by
    have hneg : f.depth = (-f.exponentOf num den).toNat + min j f.depth := by omega
    have hpos : j = (f.exponentOf num den).toNat + min j f.depth := by omega
    generalize min j f.depth = c at hneg hpos
    rw [hneg, hpos, Nat.pow_add, Nat.pow_add, ← Nat.mul_assoc, ← Nat.mul_assoc,
      roundHalfEven_mul_right (Nat.mul_pos (Nat.pos_of_ne_zero hd) (Nat.two_pow_pos _))
        (Nat.two_pow_pos c)]
  have hplace : (f.exponentOf num den - f.minExponent).toNat = j := by omega
  rw [roundRatio, if_neg hn]
  dsimp only
  rw [hplace, ← hround]
  rfl

/-- **Rounding is decided by midpoints.** A ratio is rounded beyond a number exactly if it lies
beyond the midpoint to the next number, or at this midpoint when the number is odd.

**Proof sketch.** At the place of the ratio the numbers are the mantissas, and the equivalence is
that of rounding a quotient. Numbers of lower places lie below the smallest mantissa of the place,
and so does the midpoint to the next number; numbers of higher places lie above the ratio. -/
theorem lt_roundRatio_iff (hf : f.Wide) (heven : f.hidden % 2 = 0) {num den m : Nat}
    (hd : den ≠ 0) (hm : m < f.infinity) :
    m < f.roundRatio num den ↔
      den * (f.units m + f.units (m + 1)) < 2 * (num * 2 ^ f.depth) ∨
        den * (f.units m + f.units (m + 1)) = 2 * (num * 2 ^ f.depth) ∧ m % 2 = 1 := by
  have hpos := f.hidden_pos
  have hdpos : 0 < den := Nat.pos_of_ne_zero hd
  have hmono := f.units_strictMono
  rcases eq_or_ne num 0 with rfl | hn
  · have hnext : 0 < f.units (m + 1) := f.units_zero ▸ hmono (Nat.succ_pos m)
    have hprod : 0 < den * (f.units m + f.units (m + 1)) := Nat.mul_pos hdpos (by omega)
    rw [roundRatio, if_pos rfl]
    omega
  obtain ⟨j, hround, hupper, hlower⟩ := roundRatio_eq hf hn hd
  generalize num * 2 ^ f.depth = u at *
  have hquot : 0 < den * 2 ^ j := Nat.mul_pos hdpos (Nat.two_pow_pos j)
  rw [hround, lt_min_iff, and_iff_right hm]
  rcases Nat.lt_trichotomy (f.place m) j with hlt | heq | hgt
  · -- The number lies below all mantissas of the place of the ratio.
    have hlower := hlower.resolve_left (by omega)
    obtain ⟨hmle, hunits⟩ := units_succ_le_of_place_lt hlt
    have hleast : f.hidden ≤ roundHalfEven u (den * 2 ^ j) := by
      refine le_roundHalfEven hquot ?_
      calc f.hidden * (den * 2 ^ j) = den * (f.hidden * 2 ^ j) := by ring
        _ ≤ u := hlower
    have hmid : den * (f.units m + f.units (m + 1)) < 2 * u := by
      calc den * (f.units m + f.units (m + 1)) < den * (2 * (f.hidden * 2 ^ j)) := by
            have hsucc := hmono (Nat.lt_add_one m)
            exact Nat.mul_lt_mul_of_pos_left (by omega) hdpos
        _ = 2 * (den * (f.hidden * 2 ^ j)) := by ring
        _ ≤ 2 * u := Nat.mul_le_mul_left 2 hlower
    exact iff_of_true (by omega) (.inl hmid)
  · -- The number is a mantissa at the place of the ratio.
    have hmk := (f.eq_place_add_mantissa m).1
    have hmid : den * (f.units m + f.units (m + 1)) =
        (2 * (f.split m).1 + 1) * (den * 2 ^ j) := by
      rw [units_succ, units_eq_mantissa, heq]
      ring
    rw [hmid, ← mantissa_mod_two heven m, ← lt_roundHalfEven_iff hquot]
    rw [heq] at hmk
    omega
  · -- The number lies above all mantissas of the place of the ratio.
    obtain ⟨hle, hunits⟩ := le_units_of_lt_place hgt
    have hmost : roundHalfEven u (den * 2 ^ j) ≤ 2 * f.hidden := by
      refine roundHalfEven_le hquot ?_
      calc u < den * (2 * f.hidden * 2 ^ j) := hupper
        _ = 2 * f.hidden * (den * 2 ^ j) := by ring
    have hmid : 2 * u < den * (f.units m + f.units (m + 1)) := by
      calc 2 * u < 2 * (den * (2 * f.hidden * 2 ^ j)) := by omega
        _ = den * (2 * (2 * f.hidden * 2 ^ j)) := by ring
        _ ≤ den * (f.units m + f.units (m + 1)) := by
          have hsucc := hmono (Nat.lt_add_one m)
          exact Nat.mul_le_mul_left den (by omega)
    refine iff_of_false ?_ (by omega)
    rw [Nat.succ_mul] at hle
    omega

section

variable (hf : f.Wide) (heven : f.hidden % 2 = 0) {num den m : Nat} (hd : den ≠ 0)

include hf heven hd

/-- A number that the ratio reaches is not above the rounded ratio. -/
theorem le_roundRatio (hm : m ≤ f.infinity) (h : den * f.units m ≤ num * 2 ^ f.depth) :
    m ≤ f.roundRatio num den := by
  cases m with
  | zero => exact Nat.zero_le _
  | succ m =>
    have hsucc : den * f.units m < den * f.units (m + 1) :=
      Nat.mul_lt_mul_of_pos_left (f.units_strictMono (Nat.lt_add_one m)) (Nat.pos_of_ne_zero hd)
    refine (lt_roundRatio_iff hf heven hd hm).2 (.inl ?_)
    rw [Nat.mul_add]
    omega

/-- A number that reaches the ratio is not below the rounded ratio. -/
theorem roundRatio_le (hm : m < f.infinity) (h : num * 2 ^ f.depth ≤ den * f.units m) :
    f.roundRatio num den ≤ m := by
  have hsucc : den * f.units m < den * f.units (m + 1) :=
    Nat.mul_lt_mul_of_pos_left (f.units_strictMono (Nat.lt_add_one m)) (Nat.pos_of_ne_zero hd)
  refine Nat.le_of_not_lt fun hlt => ?_
  have hmid := (lt_roundRatio_iff hf heven hd hm).1 hlt
  rw [Nat.mul_add] at hmid
  omega

end

end BinaryFormat

end Sift
