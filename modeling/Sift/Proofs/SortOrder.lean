import Sift.Proofs.IntegerRounding
import Sift.Value.Order

/-!
# The order of result sets

Values of different types are ordered by their types, values that are no numbers by their texts,
and numbers by the doubles that they round to, where two integers with the same double are ordered
exactly. The exact comparison is what keeps the order from being transitive: two integers can be
told apart, while a number of another type that both of them round to is equal to each.

## Main definitions

* `Sift.Value.Merges`: a number is equal to two different integers.

## Main results

* `Sift.Value.sortOrder_preorder_iff`: the order is reflexive and antisymmetric, and it is
  transitive except where a number merges two integers, of which one then has more than 53 bits.
* `Sift.Value.sortOrder_not_trans`: there is such a number.
-/

set_option autoImplicit false

namespace Sift

namespace Floating

variable {f : BinaryFormat}

/-- A rank tells sign and magnitude. -/
lemma rank_inj {x y : Floating f} (h : x.rank = y.rank) : x = y := by
  obtain ⟨xs, xm⟩ := x
  obtain ⟨ys, ym⟩ := y
  simp only [rank] at h
  cases xs <;> cases ys <;> simp only [Bool.false_eq_true, if_true, if_false] at h
  · rw [Fin.ext (by omega : xm.val = ym.val)]
  · omega
  · omega
  · rw [Fin.ext (by omega : xm.val = ym.val)]

end Floating

namespace Value

/-! ## Comparison by type -/

/-- Values of a lower rank come first. -/
lemma sortOrder_of_sortRank_lt {a b : Value} (h : a.sortRank < b.sortRank) :
    a.sortOrder b = .lt := by
  unfold sortOrder
  rw [Nat.compare_eq_lt.2 h]
  rfl

/-- Values of a higher rank come last. -/
lemma sortOrder_of_sortRank_gt {a b : Value} (h : b.sortRank < a.sortRank) :
    a.sortOrder b = .gt := by
  unfold sortOrder
  rw [Nat.compare_eq_gt.2 h]
  rfl

/-- Numbers are the values of the lowest rank. -/
lemma isNumber_iff_sortRank {a : Value} : a.isNumber = true ↔ a.sortRank = 0 := by
  cases a <;> simp [isNumber, sortRank]

/-- Values of one type that are no numbers are ordered by their texts: booleans too, since `false`
comes before `true`. -/
lemma sortOrder_of_texts {a b : Value} (ha : a.isNumber = false)
    (h : a.sortRank = b.sortRank) : a.sortOrder b = a.compareTexts b := by
  cases a <;> cases b <;> simp only [sortRank, isNumber] at ha h <;> first
    | contradiction
    | rfl
    | skip
  case bool.bool x y => cases x <;> cases y <;> rfl

/-! ## Comparison of numbers -/

/-- The place of the double that a number rounds to among all doubles. -/
def doubleRank (v : Value) : Int := (v.toDouble?.map Floating.rank).getD 0

/-- The exact comparison of two integers, which leaves other pairs undecided. -/
def compareIntegers (a b : Value) : Ordering :=
  match a.integer?, b.integer? with
  | some x, some y => compare x y
  | _, _ => .eq

/-- The double of an integer is the nearest one. -/
lemma toDouble?_of_integer? {a : Value} {x : Int} (h : a.integer? = some x) :
    a.toDouble? = some (Floating.ofInt x) := by
  cases a <;> simp_all [integer?, toDouble?]

/-- The place of an integer among doubles is that of the nearest one. -/
lemma doubleRank_of_integer? {a : Value} {x : Int} (h : a.integer? = some x) :
    a.doubleRank = (Floating.ofInt x : Double).rank := by
  rw [doubleRank, toDouble?_of_integer? h]
  rfl

/-- Integers whose doubles differ are in the order of their doubles. -/
lemma compare_doubleRank_then {a b : Value} {x y : Int} (ha : a.integer? = some x)
    (hb : b.integer? = some y) :
    (compare a.doubleRank b.doubleRank).then (compare x y) = compare x y := by
  rw [doubleRank_of_integer? ha, doubleRank_of_integer? hb]
  rcases Int.lt_trichotomy x y with h | h | h
  · have hle := Floating.rank_ofInt_le BinaryFormat.wide_binary64 (Int.le_of_lt h)
    rcases Int.lt_or_eq_of_le hle with hlt | heq
    · rw [Int.compare_eq_lt.2 hlt, Int.compare_eq_lt.2 h]
      rfl
    · rw [heq, Std.compare_self]
      rfl
  · rw [h, Std.compare_self]
    rfl
  · have hle := Floating.rank_ofInt_le BinaryFormat.wide_binary64 (Int.le_of_lt h)
    rcases Int.lt_or_eq_of_le hle with hlt | heq
    · rw [Int.compare_eq_gt.2 hlt, Int.compare_eq_gt.2 h]
      rfl
    · rw [heq, Std.compare_self]
      rfl

/-- Numbers are ordered by their doubles, and integers with the same double exactly. -/
lemma sortOrder_of_numbers {a b : Value} (ha : a.isNumber = true) (hb : b.isNumber = true) :
    a.sortOrder b = (compare a.doubleRank b.doubleRank).then (a.compareIntegers b) := by
  have hexact : a.sortOrder b = match a.integer?, b.integer? with
      | some x, some y => compare x y
      | _, _ => compare a.doubleRank b.doubleRank := by
    cases a <;> cases b <;> first
      | contradiction
      | simp only [sortOrder, sortRank, integer?, isNumber, toDouble?, doubleRank, if_true,
          Option.map_some, Option.getD_some, Floating.totalCompare, Std.compare_self,
          Ordering.eq_then]
  rw [hexact, compareIntegers]
  cases hx : a.integer? with
  | none => exact Ordering.then_eq.symm
  | some x =>
    cases hy : b.integer? with
    | none => exact Ordering.then_eq.symm
    | some y => exact (compare_doubleRank_then hx hy).symm

/-- Integers are numbers. -/
lemma isNumber_of_integer? {a : Value} {x : Int} (h : a.integer? = some x) :
    a.isNumber = true := by
  cases a <;> first
    | rfl
    | cases h

/-- The comparison of integers, in terms of the integers. -/
lemma compareIntegers_eq_gt_iff {a b : Value} : a.compareIntegers b = .gt ↔
    ∃ x y, a.integer? = some x ∧ b.integer? = some y ∧ y < x := by
  unfold compareIntegers
  cases a.integer? with
  | none => simp
  | some x =>
    cases b.integer? with
    | none => simp
    | some y => simp [Int.compare_eq_gt]

/-- Numbers have the same place among doubles if they have the same double. -/
lemma doubleRank_eq_iff {a b : Value} (ha : a.isNumber = true) (hb : b.isNumber = true) :
    a.doubleRank = b.doubleRank ↔ a.toDouble? = b.toDouble? := by
  have hsome : ∀ {v : Value}, v.isNumber = true → ∃ x, v.toDouble? = some x := by
    intro v hv
    cases v <;> first
      | contradiction
      | exact ⟨_, rfl⟩
  obtain ⟨x, hx⟩ := hsome ha
  obtain ⟨y, hy⟩ := hsome hb
  rw [doubleRank, doubleRank, hx, hy]
  constructor
  · intro h
    exact congrArg some (Floating.rank_inj h)
  · intro h
    rw [Option.some.inj h]

/-- A number is not after another one iff its double comes first, or the doubles are equal and the
integers, if they are integers, are not in the reverse order. -/
lemma sortOrder_ne_gt_iff_of_numbers {a b : Value} (ha : a.isNumber = true)
    (hb : b.isNumber = true) : a.sortOrder b ≠ .gt ↔
      a.doubleRank < b.doubleRank ∨
        a.doubleRank = b.doubleRank ∧ a.compareIntegers b ≠ .gt := by
  rw [sortOrder_of_numbers ha hb, Ne, Ordering.then_eq_gt, Int.compare_eq_gt,
    Std.compare_eq_iff_eq]
  constructor
  · intro h
    rcases Int.lt_trichotomy a.doubleRank b.doubleRank with hlt | heq | hgt
    · exact .inl hlt
    · exact .inr ⟨heq, fun hc => h (.inr ⟨heq, hc⟩)⟩
    · exact absurd (.inl hgt) h
  · rintro (hlt | ⟨heq, hc⟩) (hgt | ⟨heq', hc'⟩)
    · omega
    · omega
    · omega
    · exact hc hc'

/-! ## Reflexivity and antisymmetry -/

/-- Integers are compared in both directions alike. -/
lemma compareIntegers_swap (a b : Value) :
    b.compareIntegers a = (a.compareIntegers b).swap := by
  unfold compareIntegers
  cases a.integer? with
  | none => cases b.integer? <;> rfl
  | some x =>
    cases b.integer? with
    | none => rfl
    | some y => exact Std.OrientedOrd.eq_swap

/-- Exchanging two values reverses their order; in particular no value differs from itself. -/
lemma sortOrder_swap (a b : Value) : b.sortOrder a = (a.sortOrder b).swap := by
  rcases Nat.lt_trichotomy a.sortRank b.sortRank with hlt | heq | hgt
  · rw [sortOrder_of_sortRank_lt hlt, sortOrder_of_sortRank_gt hlt]
    rfl
  · cases ha : a.isNumber with
    | true =>
      have hb : b.isNumber = true := by
        rw [isNumber_iff_sortRank, ← heq, ← isNumber_iff_sortRank]
        exact ha
      rw [sortOrder_of_numbers ha hb, sortOrder_of_numbers hb ha, Ordering.swap_then,
        compareIntegers_swap a b, Std.OrientedOrd.eq_swap (a := b.doubleRank)]
    | false =>
      have hb : b.isNumber = false := by
        rw [Bool.eq_false_iff, Ne, isNumber_iff_sortRank, ← heq, ← isNumber_iff_sortRank, ha]
        exact Bool.false_ne_true
      rw [sortOrder_of_texts ha heq, sortOrder_of_texts hb heq.symm]
      exact Std.OrientedOrd.eq_swap
  · rw [sortOrder_of_sortRank_lt hgt, sortOrder_of_sortRank_gt hgt]
    rfl

/-- A value is level with itself. -/
lemma sortOrder_self (a : Value) : a.sortOrder a = .eq :=
  Ordering.eq_eq_of_eq_swap (sortOrder_swap a a)

/-! ## Transitivity -/

/-- A number that is no integer is the double of two integers, of which the first one is larger.
It is equal to both in the order, so that the larger one is not after it and it is not after the
smaller one. -/
def Merges (b a c : Value) : Prop :=
  b.isNumber = true ∧ b.integer? = none ∧
    ∃ x y, a.integer? = some x ∧ c.integer? = some y ∧ y < x ∧
      a.toDouble? = b.toDouble? ∧ c.toDouble? = b.toDouble?

instance (b a c : Value) : Decidable (b.Merges a c) :=
  match ha : a.integer?, hc : c.integer? with
  | some x, some y =>
    decidable_of_iff (b.isNumber = true ∧ b.integer? = none ∧ y < x ∧
      a.toDouble? = b.toDouble? ∧ c.toDouble? = b.toDouble?) (by simp [Merges, ha, hc])
  | none, _ => .isFalse fun h => by simp [Merges, ha] at h
  | some _, none => .isFalse fun h => by simp [Merges, hc] at h

/-- A number merges integers only where one of them has more bits than a double. -/
lemma Merges.exists_large {a b c : Value} (h : b.Merges a c) :
    ∃ x, (a.integer? = some x ∨ c.integer? = some x) ∧ 2 ^ 53 < x.natAbs := by
  obtain ⟨-, -, x, y, hx, hy, hlt, hab, hcb⟩ := h
  rcases Nat.lt_or_ge (2 ^ 53) x.natAbs with hlarge | hxs
  · exact ⟨x, .inl hx, hlarge⟩
  · rcases Nat.lt_or_ge (2 ^ 53) y.natAbs with hlarge | hys
    · exact ⟨y, .inr hy, hlarge⟩
    · have hrank := Floating.rank_ofInt_lt BinaryFormat.wide_binary64 hlt hys hxs
      rw [toDouble?_of_integer? hx] at hab
      rw [toDouble?_of_integer? hy, ← hab, Option.some.injEq] at hcb
      rw [hcb] at hrank
      exact absurd hrank (Int.lt_irrefl _)

/-- **Transitivity for numbers**, unless the second one merges the others. -/
theorem sortOrder_trans_of_numbers {a b c : Value} (ha : a.isNumber = true)
    (hb : b.isNumber = true) (hc : c.isNumber = true) (hmerge : ¬ b.Merges a c)
    (hab : a.sortOrder b ≠ .gt) (hbc : b.sortOrder c ≠ .gt) : a.sortOrder c ≠ .gt := by
  rw [sortOrder_ne_gt_iff_of_numbers ha hb] at hab
  rw [sortOrder_ne_gt_iff_of_numbers hb hc] at hbc
  rw [sortOrder_ne_gt_iff_of_numbers ha hc]
  rcases hab with hab | ⟨heqab, hab⟩
  · rcases hbc with hbc | ⟨heqbc, -⟩ <;> (left; omega)
  · rcases hbc with hbc | ⟨heqbc, hbc⟩
    · left; omega
    · -- all three have one double, and only the integers among them are compared
      refine .inr ⟨heqab.trans heqbc, fun hgt => ?_⟩
      obtain ⟨x, y, hx, hy, hlt⟩ := compareIntegers_eq_gt_iff.1 hgt
      cases hz : b.integer? with
      | none =>
        exact hmerge ⟨hb, hz, x, y, hx, hy, hlt, (doubleRank_eq_iff ha hb).1 heqab,
          (doubleRank_eq_iff hc hb).1 heqbc.symm⟩
      | some z =>
        rcases Int.lt_or_le z x with hzx | hxz
        · exact hab (compareIntegers_eq_gt_iff.2 ⟨x, z, hx, hz, hzx⟩)
        · exact hbc (compareIntegers_eq_gt_iff.2 ⟨z, y, hz, hy, by omega⟩)

/-- A merged pair of integers is in the reverse order, although each is equal to the number. -/
lemma Merges.sortOrder {a b c : Value} (h : b.Merges a c) :
    a.sortOrder b = .eq ∧ b.sortOrder c = .eq ∧ a.sortOrder c = .gt := by
  obtain ⟨hb, hz, x, y, hx, hy, hlt, hab, hcb⟩ := h
  have ha := isNumber_of_integer? hx
  have hc := isNumber_of_integer? hy
  have heqab := (doubleRank_eq_iff ha hb).2 hab
  have heqbc := (doubleRank_eq_iff hb hc).2 hcb.symm
  refine ⟨?_, ?_, ?_⟩
  · rw [sortOrder_of_numbers ha hb, heqab, Std.compare_self, compareIntegers, hx, hz]
    rfl
  · rw [sortOrder_of_numbers hb hc, heqbc, Std.compare_self, compareIntegers, hz]
    rfl
  · rw [sortOrder_of_numbers ha hc, heqab, heqbc, Std.compare_self, Ordering.eq_then]
    exact compareIntegers_eq_gt_iff.2 ⟨x, y, hx, hy, hlt⟩

/-- A value that is not greater has no higher rank. -/
lemma sortRank_le_of_sortOrder {a b : Value} (h : a.sortOrder b ≠ .gt) :
    a.sortRank ≤ b.sortRank :=
  Nat.not_lt.1 fun hlt => h (sortOrder_of_sortRank_gt hlt)

/-- **Transitivity**, unless the second value merges the others. -/
theorem sortOrder_trans {a b c : Value} (hmerge : ¬ b.Merges a c) (hab : a.sortOrder b ≠ .gt)
    (hbc : b.sortOrder c ≠ .gt) : a.sortOrder c ≠ .gt := by
  have hrab := sortRank_le_of_sortOrder hab
  have hrbc := sortRank_le_of_sortOrder hbc
  rcases Nat.lt_or_eq_of_le (Nat.le_trans hrab hrbc) with hlt | heq
  · rw [sortOrder_of_sortRank_lt hlt]
    decide
  · have hrab' : a.sortRank = b.sortRank := by omega
    have hrbc' : b.sortRank = c.sortRank := by omega
    cases ha : a.isNumber with
    | true =>
      have h0 := isNumber_iff_sortRank.1 ha
      exact sortOrder_trans_of_numbers ha (isNumber_iff_sortRank.2 (by omega))
        (isNumber_iff_sortRank.2 (by omega)) hmerge hab hbc
    | false =>
      have hb : b.isNumber = false := by
        rw [Bool.eq_false_iff, Ne, isNumber_iff_sortRank, ← hrab', ← isNumber_iff_sortRank]
        exact ne_true_of_eq_false ha
      rw [sortOrder_of_texts ha hrab', compareTexts, Ne, Ordering.ne_gt_iff_isLE] at hab
      rw [sortOrder_of_texts hb hrbc', compareTexts, Ne, Ordering.ne_gt_iff_isLE] at hbc
      rw [sortOrder_of_texts ha heq, compareTexts, Ne, Ordering.ne_gt_iff_isLE]
      exact Std.TransOrd.isLE_trans hab hbc

/-! ## The preorder and its gap -/

/-- **The order of result sets.** It is reflexive and antisymmetric. Three values are in a
transitive position iff the one in the middle does not merge the outer two, which happens only
with an integer of more than 53 bits. -/
theorem sortOrder_preorder_iff (a b c : Value) :
    a.sortOrder a = .eq ∧ b.sortOrder a = (a.sortOrder b).swap ∧
    ((a.sortOrder b ≠ .gt → b.sortOrder c ≠ .gt → a.sortOrder c ≠ .gt) ↔ ¬ b.Merges a c) ∧
    (b.Merges a c → ∃ x, (a.integer? = some x ∨ c.integer? = some x) ∧ 2 ^ 53 < x.natAbs) := by
  refine ⟨sortOrder_self a, sortOrder_swap a b, ⟨fun htrans hmerge => ?_, ?_⟩, ?_⟩
  · obtain ⟨hab, hbc, hac⟩ := hmerge.sortOrder
    rw [hab, hbc] at htrans
    exact htrans (by decide) (by decide) hac
  · intro hmerge hab hbc
    exact sortOrder_trans hmerge hab hbc
  · intro hmerge
    exact hmerge.exists_large

/-- The order is not transitive: the integer after `2 ^ 53` is not after the double `2 ^ 53`, which
is not after the integer `2 ^ 53`. -/
theorem sortOrder_not_trans : ¬ ∀ a b c : Value,
    a.sortOrder b ≠ .gt → b.sortOrder c ≠ .gt → a.sortOrder c ≠ .gt := by
  intro h
  have hab : (long 9007199254740993).sortOrder (double (Floating.ofInt 9007199254740992)) =
      .eq := by
    decide
  have hbc : (double (Floating.ofInt 9007199254740992)).sortOrder (long 9007199254740992) =
      .eq := by
    decide
  have hac : (long 9007199254740993).sortOrder (long 9007199254740992) = .gt := by
    decide
  exact h _ _ _ (by rw [hab]; decide) (by rw [hbc]; decide) hac

end Value

end Sift
