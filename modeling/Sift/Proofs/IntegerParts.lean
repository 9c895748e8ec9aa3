import Mathlib.Data.Rat.Floor
import Sift.Proofs.BoundComparison
import Sift.Proofs.SpelledNumbers

/-!
# Integer parts of rounded numbers

A decimal is rounded to the nearest number of a format before its fraction is dropped. Between the
numbers that have a fraction there are all integers, so that rounding to one of them does not pass
an integer: the decimal has the same integer part. Only where a decimal is rounded to an integer,
this may be another one than its integer part.

## Main definitions

* `Sift.integerPart`: a number without its fraction.

## Main results

* `Sift.Floating.truncate_eq`: dropping the fraction of a number.
* `Sift.BinaryFormat.roundRatio_mono`: rounding keeps the order of ratios.
* `Sift.Floating.integerPart_ofDecimal`: rounding to a number with a fraction keeps the integer
  part.
* `Sift.Floating.abs_integerPart_lt`: numbers with a fraction are small.
-/

set_option autoImplicit false

namespace Sift

/-- The integer between a number and zero that is nearest to the number. -/
def integerPart (q : Rat) : Int := if 0 ≤ q then ⌊q⌋ else ⌈q⌉

/-- An integer is its integer part. -/
lemma integerPart_intCast (k : Int) : integerPart k = k := by
  unfold integerPart
  split
  · exact Int.floor_intCast k
  · exact Int.ceil_intCast k

/-- The integer part of a ratio. -/
lemma integerPart_div (z : Int) {d : Nat} (hd : 0 < d) :
    integerPart ((z : Rat) / d) = z.tdiv d := by
  have hd' : (0 : Rat) < d := by exact_mod_cast hd
  have hsign : 0 ≤ (z : Rat) / d ↔ 0 ≤ z := by
    rw [le_div_iff₀ hd', zero_mul]
    exact_mod_cast Iff.rfl
  unfold integerPart
  split
  · rename_i h
    rw [Rat.floor_intCast_div_natCast, Int.tdiv_eq_ediv_of_nonneg (hsign.1 h)]
  · rename_i h
    rw [Rat.ceil_intCast_div_natCast, Value.tdiv_of_nonpos (Int.not_le.1 (mt hsign.2 h)).le]

namespace BinaryFormat

/-- Single precision is wide enough for integers. -/
lemma wide_binary32 : binary32.Wide := ⟨by decide, by decide⟩

variable {f : BinaryFormat} {num den num' den' m : Nat}

section

variable (hf : f.Wide) (heven : f.hidden % 2 = 0) (hd : den ≠ 0)

include hf heven hd

/-- **Rounding keeps the order of ratios.** -/
theorem roundRatio_mono (hd' : den' ≠ 0) (h : num * den' ≤ num' * den) :
    f.roundRatio num den ≤ f.roundRatio num' den' := by
  refine Nat.le_of_not_lt fun hlt => ?_
  have hm := Nat.lt_of_lt_of_le hlt (f.roundRatio_le_infinity num den)
  have hmid := (lt_roundRatio_iff hf heven hd hm).1 hlt
  refine Nat.lt_irrefl _ ((lt_roundRatio_iff hf heven hd' hm).2 ?_)
  generalize f.units (f.roundRatio num' den') + f.units (f.roundRatio num' den' + 1) = M at *
  have hscaled : 2 * (num * 2 ^ f.depth) * den' ≤ 2 * (num' * 2 ^ f.depth) * den := by
    calc 2 * (num * 2 ^ f.depth) * den' = 2 * 2 ^ f.depth * (num * den') := by ring
      _ ≤ 2 * 2 ^ f.depth * (num' * den) := Nat.mul_le_mul_left _ h
      _ = 2 * (num' * 2 ^ f.depth) * den := by ring
  have hswap : den' * M * den = den * M * den' := by ring
  have hden : 0 < den := Nat.pos_of_ne_zero hd
  have hden' : 0 < den' := Nat.pos_of_ne_zero hd'
  rcases hmid with hmid | ⟨hmid, hodd⟩
  · have hstep := Nat.mul_lt_mul_of_pos_right hmid hden'
    exact .inl (Nat.lt_of_mul_lt_mul_right (hswap ▸ Nat.lt_of_lt_of_le hstep hscaled))
  · have hstep : den' * M * den ≤ 2 * (num' * 2 ^ f.depth) * den := by
      rw [hswap, hmid]
      exact hscaled
    rcases Nat.lt_or_eq_of_le (Nat.le_of_mul_le_mul_right hstep hden) with hlt | heq
    · exact .inl hlt
    · exact .inr ⟨heq, hodd⟩

/-- A ratio that is rounded to a number with a fraction has the integer part of this number. -/
lemma div_eq_of_fraction (hm : f.roundRatio num den < f.infinity)
    (hfraction : ¬ 2 ^ f.depth ∣ f.units (f.roundRatio num den)) :
    num / den = f.units (f.roundRatio num den) / 2 ^ f.depth := by
  generalize hround : f.roundRatio num den = m at *
  have hS : 0 < 2 ^ f.depth := Nat.two_pow_pos _
  generalize hj : f.units m / 2 ^ f.depth = j
  have hbelow : j * 2 ^ f.depth < f.units m := by
    refine Nat.lt_of_le_of_ne (hj ▸ Nat.div_mul_le_self _ _) fun h => hfraction ?_
    exact Dvd.intro_left j h
  have habove : f.units m < (j + 1) * 2 ^ f.depth :=
    (Nat.div_lt_iff_lt_mul hS).1 (hj ▸ Nat.lt_succ_self _)
  refine Nat.div_eq_of_lt_le (Nat.le_of_not_lt fun hlt => ?_) (Nat.lt_of_not_le fun hle => ?_)
  · have hmono : f.roundRatio num den ≤ f.roundRatio j 1 :=
      roundRatio_mono hf heven hd Nat.one_ne_zero (by omega)
    have hstrict := roundRatio_lt_of_fraction hf heven hm hfraction hbelow
    omega
  · have hmono : f.roundRatio (j + 1) 1 ≤ f.roundRatio num den :=
      roundRatio_mono hf heven Nat.one_ne_zero hd (by omega)
    have hstrict := lt_roundRatio_of_fraction hf heven hm hfraction habove
    omega

end

/-- Numbers with a fraction have a place for it, and so fewer places before the point. -/
lemma units_div_lt_of_fraction (hfraction : ¬ 2 ^ f.depth ∣ f.units m) :
    f.units m / 2 ^ f.depth < f.hidden := by
  have hplace : f.place m < f.depth := Nat.lt_of_not_le fun hle =>
    hfraction (Nat.dvd_trans (Nat.pow_dvd_pow 2 hle) (two_pow_place_dvd_units f m))
  have hmantissa := (f.eq_place_add_mantissa m).2.2
  rw [Nat.div_lt_iff_lt_mul (Nat.two_pow_pos _), units_eq_mantissa]
  calc (f.split m).1 * 2 ^ f.place m < 2 * f.hidden * 2 ^ f.place m :=
        Nat.mul_lt_mul_of_pos_right hmantissa (Nat.two_pow_pos _)
    _ = f.hidden * 2 ^ (f.place m + 1) := by ring
    _ ≤ f.hidden * 2 ^ f.depth :=
        Nat.mul_le_mul_left _ (Nat.pow_le_pow_right (by decide) hplace)

end BinaryFormat

namespace Floating

variable {f : BinaryFormat} {x : Floating f}

/-- **Dropping the fraction of a number.** -/
theorem truncate_eq (hf : f.Wide) (hx : x.isFinite = true) :
    x.truncate = some (integerPart x.value) := by
  rw [truncate_eq_tdiv hf hx, value_eq_scaled hf, integerPart_div _ (Nat.two_pow_pos _)]

/-- A finite number is an integer, or its magnitude has a fraction. -/
lemma exists_int_or_fraction (hf : f.Wide) (x : Floating f) :
    (∃ k : Int, x.value = k) ∨ ¬ 2 ^ f.depth ∣ f.units x.magnitude.val := by
  refine or_iff_not_imp_right.2 fun h => ?_
  obtain ⟨u, hu⟩ := not_not.1 h
  have hS : ((2 ^ f.depth : Nat) : Rat) ≠ 0 := by exact_mod_cast (Nat.two_pow_pos f.depth).ne'
  refine ⟨if x.negative then -(u : Int) else u, ?_⟩
  rw [value_eq_scaled hf, div_eq_iff hS, scaled, hu]
  split <;> push_cast <;> ring

/-- The sign can be put before or after a division. -/
lemma withSign_tdiv (negative : Bool) (n d : Nat) :
    (Numeral.withSign negative n).tdiv d = Numeral.withSign negative (n / d) := by
  unfold Numeral.withSign
  split
  · rw [Int.neg_tdiv]
    rfl
  · rfl

/-- The integer part of a number by its magnitude. -/
lemma integerPart_value (hf : f.Wide) (x : Floating f) : integerPart x.value =
    Numeral.withSign x.negative (f.units x.magnitude.val / 2 ^ f.depth) := by
  rw [value_eq_scaled hf, ← withSign_tdiv, ← integerPart_div _ (Nat.two_pow_pos _)]
  rfl

/-- Numbers with a fraction are small. -/
theorem abs_integerPart_lt (hf : f.Wide) (hfraction : ¬ 2 ^ f.depth ∣ f.units x.magnitude.val) :
    |integerPart x.value| < f.hidden := by
  have hlt := BinaryFormat.units_div_lt_of_fraction hfraction
  rw [integerPart_value hf, Numeral.withSign, abs_lt]
  generalize f.units x.magnitude.val / 2 ^ f.depth = n at *
  split <;> omega

/-- The value of a decimal as a ratio. -/
lemma decimalValue_eq (negative : Bool) (c : Nat) (e : Int) :
    Numeral.decimalValue negative c e =
      (Numeral.withSign negative (c * 10 ^ e.toNat) : Rat) / (10 ^ (-e).toNat : Nat) := by
  have hsign : ∀ n, (Numeral.withSign negative (c * n) : Rat) =
      Numeral.withSign negative c * (n : Rat) := by
    intro n
    unfold Numeral.withSign
    split <;> push_cast <;> ring
  unfold Numeral.decimalValue
  rw [hsign]
  rcases Int.le_total 0 e with h | h
  · obtain ⟨n, rfl⟩ := Int.eq_ofNat_of_zero_le h
    have hnone : (-(n : Int)).toNat = 0 := by omega
    rw [hnone, Int.toNat_natCast, zpow_natCast]
    push_cast
    ring
  · obtain ⟨n, hn⟩ := Int.eq_ofNat_of_zero_le (Int.neg_nonneg_of_nonpos h)
    obtain rfl : e = -(n : Int) := by omega
    have hnone : (-(n : Int)).toNat = 0 := by omega
    rw [hnone, Int.neg_neg, Int.toNat_natCast, zpow_neg, zpow_natCast]
    push_cast
    ring

/-- The integer part of a decimal as a quotient. -/
lemma integerPart_decimalValue (negative : Bool) (c : Nat) (e : Int) :
    integerPart (Numeral.decimalValue negative c e) =
      Numeral.withSign negative (c * 10 ^ e.toNat / 10 ^ (-e).toNat) := by
  rw [decimalValue_eq, integerPart_div _ (Nat.pow_pos (by decide)), withSign_tdiv]

/-- Neither a decimal that is zero, nor one that is certainly beyond the numbers on either side, is
rounded to a number with a fraction. -/
lemma ofDecimal_eq_ofRatio {negative : Bool} {c : Nat} {e : Int}
    (hx : (ofDecimal negative c e : Floating f).isFinite = true)
    (hfraction : ¬ 2 ^ f.depth ∣ f.units (ofDecimal negative c e : Floating f).magnitude.val) :
    (ofDecimal negative c e : Floating f) =
      ofRatio negative (c * 10 ^ e.toNat) (10 ^ (-e).toNat) := by
  have hzero : 2 ^ f.depth ∣ f.units (zero negative : Floating f).magnitude.val := by
    show 2 ^ f.depth ∣ f.units (0 % f.magnitudes)
    rw [Nat.zero_mod, f.units_zero]
    exact Nat.dvd_zero _
  have hinfinity : (infinity negative : Floating f).isFinite = false := by
    refine decide_eq_false ?_
    show ¬ f.infinity % f.magnitudes < f.infinity
    rw [Nat.mod_eq_of_lt f.infinity_lt_magnitudes]
    exact Nat.lt_irrefl _
  unfold ofDecimal at hx hfraction ⊢
  dsimp only at hx hfraction ⊢
  split at hx
  · rename_i h
    rw [if_pos h] at hfraction
    exact absurd hzero hfraction
  · rename_i hc
    rw [if_neg hc] at hfraction ⊢
    split at hx
    · rw [hinfinity] at hx
      cases hx
    · rename_i hhigh
      rw [if_neg hhigh] at hfraction ⊢
      split at hx
      · rename_i hlow
        rw [if_pos hlow] at hfraction
        exact absurd hzero hfraction
      · rename_i hlow
        rw [if_neg hlow]
        rfl

/-- **Rounding to a number with a fraction keeps the integer part.** -/
theorem integerPart_ofDecimal (hf : f.Wide) (heven : f.hidden % 2 = 0) {negative : Bool} {c : Nat}
    {e : Int} (hx : (ofDecimal negative c e : Floating f).isFinite = true)
    (hfraction : ¬ 2 ^ f.depth ∣ f.units (ofDecimal negative c e : Floating f).magnitude.val) :
    integerPart (ofDecimal negative c e : Floating f).value =
      integerPart (Numeral.decimalValue negative c e) := by
  have hden : 10 ^ (-e).toNat ≠ 0 := (Nat.pow_pos (by decide)).ne'
  have hmagnitude : (ofRatio negative (c * 10 ^ e.toNat) (10 ^ (-e).toNat) :
      Floating f).magnitude.val = f.roundRatio (c * 10 ^ e.toNat) (10 ^ (-e).toNat) :=
    f.roundRatio_mod_magnitudes _ _
  have hratio := ofDecimal_eq_ofRatio hx hfraction
  rw [integerPart_value hf, integerPart_decimalValue]
  rw [hratio] at hx hfraction ⊢
  have hm := of_decide_eq_true hx
  rw [hmagnitude] at hm hfraction ⊢
  rw [BinaryFormat.div_eq_of_fraction hf heven hden hm hfraction]
  rfl

/-- A decimal with an integer part of 64 bits is not rounded to an infinity. -/
lemma isFinite_ofDecimal {negative : Bool} {c : Nat} {e : Int}
    (h : |integerPart (Numeral.decimalValue negative c e)| ≤ 2 ^ 63) :
    (ofDecimal negative c e : Double).isFinite = true := by
  have hden : 0 < 10 ^ (-e).toNat := Nat.pow_pos (by decide)
  have hquot : c * 10 ^ e.toNat / 10 ^ (-e).toNat < 2 ^ 63 + 1 := by
    rw [integerPart_decimalValue, abs_le, Numeral.withSign] at h
    generalize c * 10 ^ e.toNat / 10 ^ (-e).toNat = n at *
    split at h <;> omega
  have hnum := (Nat.div_lt_iff_lt_mul hden).1 hquot
  have hzero : ∀ negative, (zero negative : Double).isFinite = true := by decide +kernel
  unfold ofDecimal
  dsimp only
  split
  · exact hzero negative
  · rename_i hc
    split
    · -- The power alone is greater than the integers of 64 bits.
      rename_i hhigh
      have hbits : Nat.pow 2 binary64.exponentBits = 2048 := by decide +kernel
      rw [hbits] at hhigh
      have hnone : (-e).toNat = 0 := by omega
      have hpow : 10 ^ 20 ≤ 10 ^ e.toNat := Nat.pow_le_pow_right (by decide) (by omega)
      have hle : 10 ^ e.toNat ≤ c * 10 ^ e.toNat :=
        Nat.le_mul_of_pos_left _ (Nat.pos_of_ne_zero hc)
      rw [hnone] at hnum
      omega
    · split
      · exact hzero negative
      · have hmono : binary64.roundRatio (c * 10 ^ e.toNat) (10 ^ (-e).toNat) ≤
            binary64.roundRatio (2 ^ 63 + 1) 1 :=
          BinaryFormat.roundRatio_mono BinaryFormat.wide_binary64 Value.even_hidden_binary64
            (Nat.pos_iff_ne_zero.1 hden) Nat.one_ne_zero (by omega)
        have hfinite : binary64.roundRatio (2 ^ 63 + 1) 1 < binary64.infinity := by decide +kernel
        refine decide_eq_true ?_
        show binary64.roundRatio _ _ % _ < _
        rw [binary64.roundRatio_mod_magnitudes]
        exact Nat.lt_of_le_of_lt hmono hfinite

end Floating

end Sift
