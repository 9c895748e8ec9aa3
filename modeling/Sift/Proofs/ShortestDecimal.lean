import Sift.Number.Decimal
import Sift.Proofs.NearestMagnitude

/-!
# Decimals that read back

The reals that are rounded to a number form an interval whose ends are the midpoints to the two
neighbours. The search for the shortest digits looks for a decimal in this interval, on grids that
become finer by a power of ten. A grid of seventeen digits is fine enough for every number of 64
bits, so that the search never comes to its end, and the digits that it finds are rounded to the
number from which they were made.

## Main definitions

* `Sift.Decimal.num`, `Sift.Decimal.den`: a decimal as a ratio.

## Main results

* `Sift.RoundingInterval.roundRatio_of_contains`: the interval of a number is rounded to it.
* `Sift.RoundingInterval.exists_pick?_seventeen`: seventeen digits are enough.
* `Sift.Floating.contains_shortest`: the shortest digits of a number are in its interval.
* `Sift.Floating.ofDecimal_of_contains`: a decimal in the interval is read as the number.
-/

set_option autoImplicit false

namespace Sift

namespace Decimal

/-- The numerator of a decimal. -/
def num (d : Decimal) : Nat := d.coefficient * 10 ^ d.exponent.toNat

/-- The denominator of a decimal. -/
def den (d : Decimal) : Nat := 10 ^ (-d.exponent).toNat

/-- The denominator of a decimal number is positive. -/
lemma den_pos (d : Decimal) : 0 < d.den := Nat.pow_pos (by decide)

end Decimal

namespace BinaryFormat

variable {f : BinaryFormat} {m : Nat}

/-- The mantissa of a magnitude other than zero is not zero. -/
lemma mantissa_ne_zero (h0 : m ≠ 0) : (f.split m).1 ≠ 0 := by
  obtain ⟨hm, hlower, -⟩ := f.eq_place_add_mantissa m
  have hpos := f.hidden_pos
  rcases hlower with h | h
  · omega
  · rw [h, Nat.zero_mul, Nat.zero_add] at hm
    omega

/-- The smallest number lies less than `2 ^ exponentBits` places below one. -/
lemma depth_add_three_le (hf : f.Wide) : f.depth + 3 ≤ 2 ^ f.exponentBits := by
  have hmin : f.minExponent = 3 - (2 ^ (f.exponentBits - 1) : Nat) - f.precision := rfl
  have hdepth := minExponent_eq hf
  have hpos := hf.precision_pos
  have hlt := hf.precision_lt
  cases hbits : f.exponentBits with
  | zero =>
    rw [hbits] at hlt
    omega
  | succ k =>
    rw [hbits, Nat.add_sub_cancel] at hlt hmin
    rw [Nat.pow_succ]
    omega

/-- The place of the magnitude before another one: it is one lower where the mantissa is the
smallest of its place. -/
lemma place_pred (heven : f.hidden % 2 = 0) :
    f.place m = if (f.split (m + 1)).1 = f.hidden ∧ 0 < f.place (m + 1)
      then f.place (m + 1) - 1 else f.place (m + 1) := by
  have hpos := f.hidden_pos
  obtain ⟨hm, hlower, hupper⟩ := f.eq_place_add_mantissa (m + 1)
  generalize (f.split (m + 1)).1 = k at *
  generalize f.place (m + 1) = j at *
  split
  · rename_i h
    obtain ⟨j, rfl⟩ : ∃ i, j = i + 1 := ⟨j - 1, by omega⟩
    have hpred : m = j * f.hidden + (2 * f.hidden - 1) := by
      rw [Nat.succ_mul] at hm
      omega
    rw [hpred, (units_add j (.inl (by omega)) (by omega)).1]
    rfl
  · rename_i h
    have hk : k ≠ 0 := by
      rintro rfl
      have hj : j = 0 := by omega
      subst hj
      omega
    have hpred : m = j * f.hidden + (k - 1) := by omega
    rw [hpred, (units_add j (by omega) (by omega)).1]

end BinaryFormat

namespace RoundingInterval

variable {i : RoundingInterval} {d : Decimal}

/-- The decimal numbers in an interval, in integers. -/
lemma contains_iff : i.contains d = true ↔
    if i.closed then i.lower * (i.unitNum * d.den) ≤ d.num * i.unitDen ∧
        d.num * i.unitDen ≤ i.upper * (i.unitNum * d.den)
      else i.lower * (i.unitNum * d.den) < d.num * i.unitDen ∧
        d.num * i.unitDen < i.upper * (i.unitNum * d.den) := by
  show (if i.closed then decide _ else decide _) = true ↔ _
  split <;> exact decide_eq_true_iff

variable {f : BinaryFormat} {m : Nat}

/-- The unit of an interval in units of the smallest number. -/
lemma unitNum_mul (hf : f.Wide) (m : Nat) :
    (ofMagnitude f m).unitNum * 2 ^ (f.depth + 2) =
      (ofMagnitude f m).unitDen * 2 ^ f.place m := by
  have hmin := BinaryFormat.minExponent_eq hf
  have hplace := f.split_snd m
  show 2 ^ ((f.split m).2 - 2).toNat * _ = 2 ^ (2 - (f.split m).2).toNat * _
  rw [← Nat.pow_add, ← Nat.pow_add]
  congr 1
  omega

/-- Multiples of the unit against a decimal. -/
lemma unit_le_iff (hf : f.Wide) (m a : Nat) :
    (a * ((ofMagnitude f m).unitNum * d.den) ≤ d.num * (ofMagnitude f m).unitDen ↔
        d.den * (a * 2 ^ f.place m) ≤ 4 * (d.num * 2 ^ f.depth)) ∧
      (d.num * (ofMagnitude f m).unitDen ≤ a * ((ofMagnitude f m).unitNum * d.den) ↔
        4 * (d.num * 2 ^ f.depth) ≤ d.den * (a * 2 ^ f.place m)) := by
  have hunit := unitNum_mul hf m
  have hden : 0 < (ofMagnitude f m).unitDen := Nat.two_pow_pos _
  have hpow : 0 < 2 ^ (f.depth + 2) := Nat.two_pow_pos _
  generalize (ofMagnitude f m).unitNum = u at *
  generalize (ofMagnitude f m).unitDen = w at *
  have hleft : a * (u * d.den) * 2 ^ (f.depth + 2) = d.den * (a * 2 ^ f.place m) * w := by
    calc a * (u * d.den) * 2 ^ (f.depth + 2) = a * d.den * (u * 2 ^ (f.depth + 2)) := by ring
      _ = a * d.den * (w * 2 ^ f.place m) := by rw [hunit]
      _ = d.den * (a * 2 ^ f.place m) * w := by ring
  have hright : d.num * w * 2 ^ (f.depth + 2) = 4 * (d.num * 2 ^ f.depth) * w := by ring
  constructor
  · rw [← Nat.mul_le_mul_right_iff hpow, hleft, hright, Nat.mul_le_mul_right_iff hden]
  · rw [← Nat.mul_le_mul_right_iff hpow, hleft, hright, Nat.mul_le_mul_right_iff hden]

/-- The ends of an interval are the midpoints to the neighbours. -/
lemma ends_eq (heven : f.hidden % 2 = 0) (m : Nat) :
    (ofMagnitude f (m + 1)).lower * 2 ^ f.place (m + 1) = 2 * (f.units m + f.units (m + 1)) ∧
      (ofMagnitude f (m + 1)).upper * 2 ^ f.place (m + 1) =
        2 * (f.units (m + 1) + f.units (m + 1 + 1)) := by
  have hprev := f.units_succ m
  have hnext := f.units_succ (m + 1)
  have hunits := f.units_eq_mantissa (m + 1)
  have hpred := BinaryFormat.place_pred (m := m) heven
  have hexponent := f.split_snd (m + 1)
  constructor
  · show (4 * (f.split (m + 1)).1 - if (f.split (m + 1)).1 = f.hidden ∧
      f.minExponent < (f.split (m + 1)).2 then 1 else 2) * _ = _
    have hplace : f.minExponent < (f.split (m + 1)).2 ↔ 0 < f.place (m + 1) := by omega
    simp only [hplace]
    generalize f.place (m + 1) = j at *
    rw [Nat.sub_mul, Nat.mul_assoc, ← hunits]
    split at hpred <;> rename_i h
    · obtain ⟨i, rfl⟩ : ∃ i, j = i + 1 := ⟨j - 1, by omega⟩
      rw [Nat.add_sub_cancel] at hpred
      rw [if_pos h, Nat.pow_succ, ← hpred]
      omega
    · rw [if_neg h, ← hpred]
      omega
  · show (4 * (f.split (m + 1)).1 + 2) * _ = _
    rw [Nat.add_mul, Nat.mul_assoc, ← hunits]
    omega

/-- **The interval of a number is rounded to it.** -/
theorem roundRatio_of_contains (hf : f.Wide) (heven : f.hidden % 2 = 0) (h0 : m ≠ 0)
    (hm : m < f.infinity) (h : (ofMagnitude f m).contains d = true) :
    f.roundRatio d.num d.den = m := by
  obtain ⟨m, rfl⟩ : ∃ k, m = k + 1 := ⟨m - 1, by omega⟩
  have hlower := unit_le_iff (d := d) hf (m + 1) (ofMagnitude f (m + 1)).lower
  have hupper := unit_le_iff (d := d) hf (m + 1) (ofMagnitude f (m + 1)).upper
  have hends := ends_eq heven m
  have hclosed : (ofMagnitude f (m + 1)).closed = decide ((m + 1) % 2 = 0) := by
    rw [← BinaryFormat.mantissa_mod_two heven]
    rfl
  have hround := fun k => @BinaryFormat.lt_roundRatio_iff f hf heven d.num d.den k d.den_pos.ne'
  have hprev := hround m (Nat.lt_of_succ_lt hm)
  have hnext := hround (m + 1) hm
  rw [contains_iff, hclosed] at h
  rw [hends.1] at hlower
  rw [hends.2] at hupper
  have hdouble : ∀ a, d.den * (2 * a) = 2 * (d.den * a) := fun a => by ring
  rw [hdouble] at hlower hupper
  generalize d.den * (f.units m + f.units (m + 1)) = x at *
  generalize d.den * (f.units (m + 1) + f.units (m + 1 + 1)) = y at *
  simp only [decide_eq_true_eq] at h
  split at h <;> omega

/-! ## The search -/

/-- What is strictly between the ends is in an interval. -/
lemma contains_of_lt {c : Nat} {e : Int}
    (h : i.lower * (i.unitNum * 10 ^ (-e).toNat) < c * (i.unitDen * 10 ^ e.toNat) ∧
      c * (i.unitDen * 10 ^ e.toNat) < i.upper * (i.unitNum * 10 ^ (-e).toNat)) :
    i.contains ⟨c, e⟩ = true := by
  have hpoint : (⟨c, e⟩ : Decimal).num * i.unitDen = c * (i.unitDen * 10 ^ e.toNat) := by
    unfold Decimal.num
    ring
  rw [contains_iff, hpoint]
  unfold Decimal.den
  split
  · exact ⟨Nat.le_of_lt h.1, Nat.le_of_lt h.2⟩
  · exact h

/-- If no point is picked from a grid, neither of the points beside the number lies in the
interval. -/
lemma contains_of_pick?_eq_none {tiesUp : Bool} {e : Int} (h : i.pick? tiesUp e = none) :
    ∃ q, q = i.centre * i.unitNum * 10 ^ (-e).toNat / (i.unitDen * 10 ^ e.toNat) ∧
      i.contains ⟨q, e⟩ = false ∧ i.contains ⟨q + 1, e⟩ = false := by
  unfold pick? at h
  dsimp only at h
  refine ⟨_, rfl, ?_⟩
  split at h
  · split at h <;> cases h
  · cases h
  · cases h
  · rename_i hlow hhigh
    exact ⟨hlow, hhigh⟩

/-- A grid that is finer than the interval has a point in it. -/
lemma exists_pick? {tiesUp : Bool} {e : Int} (hlower : i.lower ≤ i.centre)
    (hupper : i.centre < i.upper) (hnum : 0 < i.unitNum) (hden : 0 < i.unitDen)
    (hfine : i.unitDen * 10 ^ e.toNat < (i.upper - i.lower) * (i.unitNum * 10 ^ (-e).toNat)) :
    ∃ d, i.pick? tiesUp e = some d := by
  refine Option.ne_none_iff_exists'.1 fun hnone => ?_
  obtain ⟨q, hq, hlow, hhigh⟩ := contains_of_pick?_eq_none hnone
  replace hlow := mt contains_of_lt (Bool.eq_false_iff.1 hlow)
  replace hhigh := mt contains_of_lt (Bool.eq_false_iff.1 hhigh)
  have hscale : 0 < i.unitNum * 10 ^ (-e).toNat := Nat.mul_pos hnum (Nat.pow_pos (by decide))
  have hstep : 0 < i.unitDen * 10 ^ e.toNat := Nat.mul_pos hden (Nat.pow_pos (by decide))
  rw [Nat.mul_assoc] at hq
  rw [Nat.sub_mul] at hfine
  generalize i.unitNum * 10 ^ (-e).toNat = scale at *
  generalize i.unitDen * 10 ^ e.toNat = step at *
  have hbelow : q * step ≤ i.centre * scale := hq ▸ Nat.div_mul_le_self _ _
  have habove : i.centre * scale < q * step + step := hq ▸ Nat.lt_div_mul_add hstep
  have hlower' := Nat.mul_le_mul_right scale hlower
  have hupper' := Nat.mul_lt_mul_of_pos_right hupper hscale
  rw [Nat.succ_mul] at hhigh
  omega

/-- A point that is picked from a grid lies in the interval. -/
lemma contains_of_pick? {tiesUp : Bool} {e : Int} (h : i.pick? tiesUp e = some d) :
    i.contains d = true := by
  unfold pick? at h
  dsimp only at h
  split at h
  · rename_i hlow hhigh
    split at h <;> cases h
    · exact hlow
    · exact hhigh
  · rename_i hlow _
    cases h
    exact hlow
  · rename_i _ hhigh
    cases h
    exact hhigh
  · cases h

/-- The search finds a decimal in the interval if the finest of its grids has one. -/
lemma contains_search {tiesUp : Bool} {fuel : Nat} {e : Int}
    (h : ∃ d, i.pick? tiesUp (e - fuel) = some d) :
    i.contains (i.search tiesUp (fuel + 1) e) = true := by
  induction fuel generalizing e with
  | zero =>
    obtain ⟨d, h⟩ := h
    rw [Int.natCast_zero, Int.sub_zero] at h
    rw [search, h]
    exact contains_of_pick? h
  | succ fuel ih =>
    rw [search]
    split
    · exact contains_of_pick? (by assumption)
    · refine ih ?_
      have he : e - 1 - fuel = e - (fuel + 1 : Nat) := by omega
      rwa [he]

end RoundingInterval

/-! ## Seventeen digits -/

/-- A number is less than the power of ten with as many zeros as it has digits. -/
lemma lt_pow_digits (n : Nat) : n < 10 ^ (decimalDigits n).length :=
  (Nat.length_toDigits_le_iff (by decide) Nat.length_toDigits_pos).1 (Nat.le_refl _)

/-- A number is at least the power of ten with as many digits as it has. -/
lemma pow_digits_le {n : Nat} (hn : n ≠ 0) : 10 ^ ((decimalDigits n).length - 1) ≤ n := by
  rcases Nat.eq_zero_or_pos ((decimalDigits n).length - 1) with h | h
  · rw [h]
    exact Nat.pos_of_ne_zero hn
  · have hlength := (Nat.length_toDigits_le_iff (b := 10) (n := n) (by decide) h).not
    exact Nat.le_of_not_lt (hlength.1 (by
      have hpos : 0 < (decimalDigits n).length := Nat.length_toDigits_pos
      show ¬ (decimalDigits n).length ≤ _
      omega))

/-- A ratio reaches the power of ten of its first digit. -/
lemma decimalExponent_le {num den : Nat} (hn : num ≠ 0) :
    den * 10 ^ (decimalExponent num den).toNat ≤ num * 10 ^ (-decimalExponent num den).toNat := by
  unfold decimalExponent
  simp only [Nat.pow_eq]
  split
  · assumption
  · have hpos : 0 < (decimalDigits num).length := Nat.length_toDigits_pos
    have hnum := pow_digits_le hn
    have hden := lt_pow_digits den
    generalize (decimalDigits num).length = a at *
    generalize (decimalDigits den).length = b at *
    refine (BinaryFormat.pow_le_iff (by decide) (S := b) (x := a - 1) (by omega)).2 ?_
    calc den * 10 ^ (a - 1) ≤ 10 ^ b * 10 ^ (a - 1) := Nat.mul_le_mul_right _ hden.le
      _ = 10 ^ (a - 1) * 10 ^ b := Nat.mul_comm ..
      _ ≤ num * 10 ^ b := Nat.mul_le_mul_right _ hnum

namespace RoundingInterval

variable {i : RoundingInterval}

/-- A grid of seventeen digits has a point in the interval of a number that is less than
`10 ^ 16` times as large as the interval. -/
theorem exists_pick?_seventeen {tiesUp : Bool} (hlower : i.lower ≤ i.centre)
    (hupper : i.centre < i.upper) (hnum : 0 < i.unitNum) (hden : 0 < i.unitDen)
    (hcentre : i.centre ≠ 0) (hdigits : i.centre < (i.upper - i.lower) * 10 ^ 16) :
    ∃ d, i.pick? tiesUp (decimalExponent (i.centre * i.unitNum) i.unitDen - (16 : Nat)) =
      some d := by
  have hle := @decimalExponent_le (i.centre * i.unitNum) i.unitDen
    (Nat.mul_ne_zero hcentre hnum.ne')
  generalize decimalExponent (i.centre * i.unitNum) i.unitDen = e at hle ⊢
  -- Both exponents are made natural by a power of ten on both sides.
  obtain ⟨S, x, hx, hx16⟩ : ∃ S x : Nat, e + S = x ∧ 16 ≤ x :=
    ⟨e.natAbs + 16, (e + (e.natAbs + 16)).toNat, by omega, by omega⟩
  rw [BinaryFormat.pow_le_iff (by decide) hx] at hle
  refine exists_pick? hlower hupper hnum hden (Nat.lt_of_not_le fun hcoarse => ?_)
  have hcoarse' : (i.upper - i.lower) * i.unitNum * 10 ^ S ≤ i.unitDen * 10 ^ (x - 16) := by
    refine (BinaryFormat.pow_le_iff (by decide) (t := -(e - (16 : Nat))) (by omega)).1 ?_
    rwa [Int.neg_neg, Nat.mul_assoc]
  have hpow : 0 < i.unitNum * 10 ^ S := Nat.mul_pos hnum (Nat.pow_pos (by decide))
  have hsplit : 10 ^ (x - 16) * 10 ^ 16 = 10 ^ x := by
    rw [← Nat.pow_add, Nat.sub_add_cancel hx16]
  have hlt : i.unitDen * 10 ^ x < i.unitDen * 10 ^ x := by
    calc i.unitDen * 10 ^ x ≤ i.centre * i.unitNum * 10 ^ S := hle
      _ = i.centre * (i.unitNum * 10 ^ S) := Nat.mul_assoc ..
      _ < (i.upper - i.lower) * 10 ^ 16 * (i.unitNum * 10 ^ S) :=
        Nat.mul_lt_mul_of_pos_right hdigits hpow
      _ = (i.upper - i.lower) * i.unitNum * 10 ^ S * 10 ^ 16 := by ring
      _ ≤ i.unitDen * 10 ^ (x - 16) * 10 ^ 16 := Nat.mul_le_mul_right _ hcoarse'
      _ = i.unitDen * 10 ^ x := by rw [Nat.mul_assoc, hsplit]
  exact Nat.lt_irrefl _ hlt

/-- A decimal is in an interval as it is without a zero at its end. -/
lemma contains_ten_mul (c : Nat) (e : Int) :
    i.contains ⟨10 * c, e⟩ = i.contains ⟨c, e + 1⟩ := by
  obtain ⟨k, hk, hnum, hden⟩ : ∃ k, 0 < k ∧
      (⟨10 * c, e⟩ : Decimal).num = (⟨c, e + 1⟩ : Decimal).num * k ∧
      (⟨10 * c, e⟩ : Decimal).den = (⟨c, e + 1⟩ : Decimal).den * k := by
    unfold Decimal.num Decimal.den
    dsimp only
    rcases Int.lt_or_le e 0 with he | he
    · have hnum : e.toNat = 0 ∧ (e + 1).toNat = 0 := by omega
      have hden : (-e).toNat = (-(e + 1)).toNat + 1 := by omega
      refine ⟨10, by decide, ?_, ?_⟩
      · rw [hnum.1, hnum.2]
        ring
      · rw [hden, Nat.pow_succ]
    · have hnum : (e + 1).toNat = e.toNat + 1 := by omega
      have hden : (-e).toNat = 0 ∧ (-(e + 1)).toNat = 0 := by omega
      refine ⟨1, by decide, ?_, ?_⟩
      · rw [hnum, Nat.pow_succ]
        ring
      · rw [hden.1, hden.2, Nat.mul_one]
  rw [Bool.eq_iff_iff, contains_iff, contains_iff, hnum, hden]
  generalize (⟨c, e + 1⟩ : Decimal).num = n
  generalize (⟨c, e + 1⟩ : Decimal).den = d
  have hscaled : ∀ a, a * (i.unitNum * (d * k)) = a * (i.unitNum * d) * k := fun a => by ring
  have hpoint : n * k * i.unitDen = n * i.unitDen * k := by ring
  simp only [hscaled, hpoint, Nat.mul_le_mul_right_iff hk, Nat.mul_lt_mul_right hk]

/-- Dropping zeros at the end does not change a decimal number. -/
lemma contains_trimZeros {d : Decimal} (h : i.contains d = true) (fuel : Nat) :
    i.contains (d.trimZeros fuel) = true := by
  induction fuel generalizing d with
  | zero => exact h
  | succ fuel ih =>
    rw [Decimal.trimZeros]
    split
    · rename_i hzero
      refine ih ?_
      rw [← contains_ten_mul, Nat.mul_div_cancel' (Nat.dvd_of_mod_eq_zero hzero)]
      exact h
    · exact h

variable {f : BinaryFormat} {m : Nat}

/-- A decimal that is an integer is in an interval as the integer is. -/
lemma contains_integer {c : Nat} {e : Int} (he : 0 ≤ e) :
    i.contains ⟨c * 10 ^ e.toNat, 0⟩ = i.contains ⟨c, e⟩ := by
  have hnum : (⟨c * 10 ^ e.toNat, 0⟩ : Decimal).num = (⟨c, e⟩ : Decimal).num := Nat.mul_one _
  have hden : (⟨c * 10 ^ e.toNat, 0⟩ : Decimal).den = (⟨c, e⟩ : Decimal).den := by
    have hneg : (-e).toNat = 0 := by omega
    unfold Decimal.den
    rw [hneg]
    rfl
  rw [Bool.eq_iff_iff, contains_iff, contains_iff, hnum, hden]

/-- The interval of a number other than zero does not reach zero. -/
lemma lower_pos (h0 : m ≠ 0) : 0 < (ofMagnitude f m).lower := by
  have hmantissa := BinaryFormat.mantissa_ne_zero (f := f) h0
  show 0 < 4 * (f.split m).1 - if _ then 1 else 2
  split <;> omega

/-- The interval of a number is large enough for seventeen digits. -/
lemma centre_lt (hdigits : 2 * f.hidden ≤ 10 ^ 16) (m : Nat) :
    (ofMagnitude f m).lower ≤ (ofMagnitude f m).centre ∧
      (ofMagnitude f m).centre < (ofMagnitude f m).upper ∧
      (ofMagnitude f m).centre < ((ofMagnitude f m).upper - (ofMagnitude f m).lower) * 10 ^ 16 := by
  have hupper := (f.eq_place_add_mantissa m).2.2
  unfold ofMagnitude
  dsimp only
  generalize (f.split m).1 = k at *
  split <;> omega

end RoundingInterval

namespace Floating

variable {f : BinaryFormat} {x : Floating f}

/-- **Shortest digits.** The shortest digits of a number are in its interval.

**Proof sketch.** A number has fewer than `4 * 10 ^ 16` units, so that the seventeenth grid of the
search has a smaller step than the interval. The search ends there at the latest, with a point in
the interval, and dropping zeros does not change the point. -/
theorem contains_shortest (hdigits : 2 * f.hidden ≤ 10 ^ 16) (h0 : x.magnitude.val ≠ 0)
    (tiesUp : Bool) :
    (RoundingInterval.ofMagnitude f x.magnitude.val).contains (x.shortest tiesUp) = true := by
  have hcentre : (RoundingInterval.ofMagnitude f x.magnitude.val).centre ≠ 0 :=
    Nat.mul_ne_zero (by decide) (BinaryFormat.mantissa_ne_zero h0)
  obtain ⟨hlower, hupper, hlt⟩ := RoundingInterval.centre_lt hdigits x.magnitude.val
  exact RoundingInterval.contains_trimZeros (RoundingInterval.contains_search
    (RoundingInterval.exists_pick?_seventeen hlower hupper (Nat.two_pow_pos _) (Nat.two_pow_pos _)
      hcentre hlt)) 20

/-- A decimal in the interval of a number is not so small that it is taken for zero. -/
lemma le_of_contains (hf : f.Wide) (h0 : x.magnitude.val ≠ 0) {c : Nat} {e : Int} (he : e ≤ 0)
    (h : (RoundingInterval.ofMagnitude f x.magnitude.val).contains ⟨c, e⟩ = true) :
    c ≠ 0 ∧ -(2 ^ f.exponentBits : Nat) ≤ e + c.log2 := by
  have hreaches := (RoundingInterval.unit_le_iff (d := ⟨c, e⟩) hf x.magnitude.val
    (RoundingInterval.ofMagnitude f x.magnitude.val).lower).1.1 (by
      rw [RoundingInterval.contains_iff] at h
      split at h
      · exact h.1
      · exact h.1.le)
  have hlower := RoundingInterval.lower_pos (f := f) h0
  have hden : 10 ^ (-e).toNat ≤ c * 2 ^ (f.depth + 2) := by
    have hnum : (⟨c, e⟩ : Decimal).num = c := by
      have hpos : e.toNat = 0 := by omega
      unfold Decimal.num
      rw [hpos, Nat.pow_zero, Nat.mul_one]
    calc 10 ^ (-e).toNat ≤ 10 ^ (-e).toNat *
          ((RoundingInterval.ofMagnitude f x.magnitude.val).lower * 2 ^ f.place x.magnitude.val) :=
          Nat.le_mul_of_pos_right _ (Nat.mul_pos hlower (Nat.two_pow_pos _))
      _ ≤ 4 * (c * 2 ^ f.depth) := hnum ▸ hreaches
      _ = c * 2 ^ (f.depth + 2) := by ring
  have hc : c ≠ 0 := by
    rintro rfl
    have hpos : 0 < 10 ^ (-e).toNat := Nat.pow_pos (by decide)
    omega
  have hbits : 2 ^ (-e).toNat < 2 ^ (c.log2 + 1 + (f.depth + 2)) := by
    calc 2 ^ (-e).toNat ≤ 10 ^ (-e).toNat := Nat.pow_le_pow_left (by decide) _
      _ ≤ c * 2 ^ (f.depth + 2) := hden
      _ < 2 ^ (c.log2 + 1) * 2 ^ (f.depth + 2) :=
        Nat.mul_lt_mul_of_pos_right Nat.lt_log2_self (Nat.two_pow_pos _)
      _ = 2 ^ (c.log2 + 1 + (f.depth + 2)) := (Nat.pow_add ..).symm
  have hlt := (Nat.pow_lt_pow_iff_right (by decide)).1 hbits
  have hdepth := BinaryFormat.depth_add_three_le hf
  exact ⟨hc, by omega⟩

/-- **Reading back.** A decimal in the interval of a finite number is read as this number. -/
theorem ofDecimal_of_contains (hf : f.Wide) (heven : f.hidden % 2 = 0) (hx : x.isFinite = true)
    (h0 : x.magnitude.val ≠ 0) {c : Nat} {e : Int} (he : e ≤ 0)
    (h : (RoundingInterval.ofMagnitude f x.magnitude.val).contains ⟨c, e⟩ = true) :
    ofDecimal x.negative c e = x := by
  obtain ⟨hc, hlow⟩ := le_of_contains hf h0 he h
  have hround := RoundingInterval.roundRatio_of_contains hf heven h0 (of_decide_eq_true hx) h
  have hhigh : ¬ ((2 ^ f.exponentBits : Nat) : Int) < e :=
    Int.not_lt.2 (Int.le_trans he (Int.natCast_nonneg _))
  unfold ofDecimal
  simp only [Nat.pow_eq]
  rw [if_neg hc, if_neg hhigh, if_neg (Int.not_lt.2 hlow)]
  have hmod : (f.roundRatio (c * 10 ^ e.toNat) (10 ^ (-e).toNat)) % f.magnitudes =
      x.magnitude.val := by
    rw [f.roundRatio_mod_magnitudes]
    exact hround
  unfold ofRatio ofMagnitude
  simp only [hmod]

end Floating

end Sift
