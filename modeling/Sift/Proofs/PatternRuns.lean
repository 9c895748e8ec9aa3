import Mathlib.Logic.Basic
import Mathlib.Tactic.Lemma
import Sift.Pattern.Basic

/-!
# The runs that a pattern matches

A pattern leads from one position of a text to another one if it matches the run of characters
between them. Following all ways at once finds the same: the positions that are marked behind a
pattern are those to which it leads from the ones that were marked in front of it.

## Main definitions

* `Sift.Pattern.Leads`: a pattern leads from one position to another one.
* `Sift.Pattern.Carries`: a step on sets of positions follows a relation between positions.

## Main results

* `Sift.Pattern.Carries.reach`: any number of steps up to a bound.
* `Sift.Pattern.Repeats.shorten`: a way that never goes back needs no more steps than positions.
* `Sift.Pattern.advance_carries`: advancing follows the pattern.
* `Sift.Pattern.occursIn_iff`: a pattern occurs in a text if it leads somewhere in it.
-/

set_option autoImplicit false

namespace Sift

namespace Pattern

/-! ## Ways through a text -/

/-- The character in front of a position. -/
def before? (text : List Char) : Nat → Option Char
  | 0 => none
  | i + 1 => text[i]?

/-- A number of steps, each along a relation. -/
def Repeats (r : Nat → Nat → Prop) : Nat → Nat → Nat → Prop
  | 0, i, j => i = j
  | n + 1, i, j => ∃ k, r i k ∧ Repeats r n k j

/-- A pattern matches the run of characters between two positions. -/
def Leads (text : List Char) : Pattern → Nat → Nat → Prop
  | empty, i, j => i = j
  | one s, i, j => (∃ c, text[i]? = some c ∧ s.contains c.toNat = true) ∧ j = i + 1
  | look l, i, j => l.holds (before? text i) text[i]? = true ∧ i = j
  | seq p q, i, j => ∃ k, Leads text p i k ∧ Leads text q k j
  | alt p q, i, j => Leads text p i j ∨ Leads text q i j
  | again p least most, i, j =>
    ∃ n, least ≤ n ∧ (∀ m ∈ most, n ≤ max least m) ∧ Repeats (Leads text p) n i j
  | capture p, i, j => Leads text p i j

namespace Repeats

variable {r : Nat → Nat → Prop}

/-- Steps can be made in two parts. -/
lemma add {m n i j : Nat} :
    Repeats r (m + n) i j ↔ ∃ k, Repeats r m i k ∧ Repeats r n k j := by
  induction m generalizing i with
  | zero => simp [Repeats]
  | succ m ih =>
    rw [Nat.succ_add_eq_add_succ, Nat.add_succ]
    simp only [Repeats, ih]
    constructor
    · rintro ⟨k, hk, l, hl, hj⟩
      exact ⟨l, ⟨k, hk, hl⟩, hj⟩
    · rintro ⟨l, ⟨k, hk, hl⟩, hj⟩
      exact ⟨k, hk, l, hl, hj⟩

/-- Some steps that have to be made and some that may be left out. -/
lemma split_iff {a b i j : Nat} :
    (∃ k, Repeats r a i k ∧ ∃ m, m ≤ b ∧ Repeats r m k j) ↔
      ∃ n, a ≤ n ∧ n ≤ a + b ∧ Repeats r n i j := by
  constructor
  · rintro ⟨k, hk, m, hm, hj⟩
    exact ⟨a + m, by omega, by omega, add.2 ⟨k, hk, hj⟩⟩
  · rintro ⟨n, hmin, hmax, h⟩
    obtain ⟨m, rfl⟩ := Nat.exists_eq_add_of_le hmin
    obtain ⟨k, hk, hj⟩ := add.1 h
    exact ⟨k, hk, m, by omega, hj⟩

/-- Steps of which each may be left out. -/
lemma reflexive_iff {n i j : Nat} :
    Repeats (fun i j => i = j ∨ r i j) n i j ↔ ∃ m, m ≤ n ∧ Repeats r m i j := by
  induction n generalizing i with
  | zero =>
    constructor
    · exact fun h => ⟨0, Nat.le_refl 0, h⟩
    · rintro ⟨m, hm, h⟩
      obtain rfl := Nat.le_zero.1 hm
      exact h
  | succ n ih =>
    constructor
    · rintro ⟨k, rfl | hk, h⟩
      · obtain ⟨m, hm, h⟩ := ih.1 h
        exact ⟨m, Nat.le_succ_of_le hm, h⟩
      · obtain ⟨m, hm, h⟩ := ih.1 h
        exact ⟨m + 1, Nat.succ_le_succ hm, k, hk, h⟩
    · rintro ⟨_ | m, hm, h⟩
      · exact ⟨i, .inl rfl, ih.2 ⟨0, Nat.zero_le n, h⟩⟩
      · obtain ⟨k, hk, h⟩ := h
        exact ⟨k, .inr hk, ih.2 ⟨m, Nat.le_of_succ_le_succ hm, h⟩⟩

/-- Steps keep a property that each of them keeps. -/
lemma preserves {P : Nat → Prop} (hr : ∀ i j, r i j → P i → P j) {n i j : Nat}
    (h : Repeats r n i j) (hi : P i) : P j := by
  induction n generalizing i with
  | zero =>
    obtain rfl := h
    exact hi
  | succ n ih =>
    obtain ⟨k, hk, h⟩ := h
    exact ih h (hr i k hk hi)

/-- **No detours.** If no step goes back, steps that stay where they are can be left out, so that
there are at most as many steps as positions between the ends. -/
theorem shorten (hr : ∀ i j, r i j → i ≤ j) {n i j : Nat} (h : Repeats r n i j) :
    ∃ m, i + m ≤ j ∧ Repeats r m i j := by
  induction n generalizing i with
  | zero => exact ⟨0, Nat.le_of_eq h, h⟩
  | succ n ih =>
    obtain ⟨k, hk, h⟩ := h
    obtain ⟨m, hm, h⟩ := ih h
    by_cases hik : i = k
    · exact ⟨m, by omega, hik ▸ h⟩
    · have hlt := hr i k hk
      exact ⟨m + 1, by omega, k, hk, h⟩

end Repeats

/-- A pattern leads forward. -/
lemma Leads.le {text : List Char} {p : Pattern} {i j : Nat} (h : Leads text p i j) : i ≤ j := by
  induction p generalizing i j with
  | empty => exact Nat.le_of_eq h
  | one s =>
    obtain ⟨-, rfl⟩ := h
    exact Nat.le_succ i
  | look l => exact Nat.le_of_eq h.2
  | seq p q ihp ihq =>
    obtain ⟨k, hp, hq⟩ := h
    exact Nat.le_trans (ihp hp) (ihq hq)
  | alt p q ihp ihq => exact h.elim ihp ihq
  | again p least most ih =>
    obtain ⟨n, -, -, h⟩ := h
    exact h.preserves (P := (i ≤ ·)) (fun k l hkl hk => Nat.le_trans hk (ih hkl)) (Nat.le_refl i)
  | capture p ih => exact ih h

/-- A pattern does not lead out of a text. -/
lemma Leads.le_length {text : List Char} {p : Pattern} {i j : Nat} (h : Leads text p i j)
    (hi : i ≤ text.length) : j ≤ text.length := by
  induction p generalizing i j with
  | empty => exact h ▸ hi
  | one s =>
    obtain ⟨⟨c, hc, -⟩, rfl⟩ := h
    exact (List.getElem?_eq_some_iff.1 hc).1
  | look l => exact h.2 ▸ hi
  | seq p q ihp ihq =>
    obtain ⟨k, hp, hq⟩ := h
    exact ihq hq (ihp hp hi)
  | alt p q ihp ihq => exact h.elim (ihp · hi) (ihq · hi)
  | again p least most ih =>
    obtain ⟨n, -, -, h⟩ := h
    exact h.preserves (fun k l hkl hk => ih hkl hk) hi
  | capture p ih => exact ih h hi

/-! ## Sets of positions -/

/-- A step takes the sets of `n` positions to the sets of the positions that are related to one of
them. -/
structure Carries (n : Nat) (step : Marks → Marks) (r : Nat → Nat → Prop) : Prop where
  /-- The positions stay the same. -/
  length : ∀ marks, marks.length = n → (step marks).length = n
  /-- A position is marked if it is related to one that was marked. -/
  marked : ∀ marks, marks.length = n → ∀ j,
    (step marks)[j]? = some true ↔ ∃ i, marks[i]? = some true ∧ r i j

/-- Two Booleans of two lists are true together. -/
lemma getElem?_zipWith_and {α : Type} (f : α → Bool) (marks : Marks) (xs : List α) (i : Nat) :
    (List.zipWith (fun marked x => marked && f x) marks xs)[i]? = some true ↔
      marks[i]? = some true ∧ ∃ x, xs[i]? = some x ∧ f x = true := by
  rw [List.getElem?_zipWith]
  cases marks[i]? <;> cases xs[i]? <;> simp

/-- The characters around the positions of a text. -/
lemma getElem?_contexts (before : Option Char) (text : List Char) (i : Nat) :
    (contexts before text)[i]? =
      if i ≤ text.length then some (if i = 0 then before else before? text i, text[i]?)
      else none := by
  induction text generalizing before i with
  | nil => cases i <;> simp [contexts]
  | cons c rest ih =>
    cases i with
    | zero => simp [contexts]
    | succ i =>
      rw [contexts, List.getElem?_cons_succ, ih]
      cases i <;> simp [before?]

/-- There is a context before each character, and one at the end. -/
lemma length_contexts (before : Option Char) (text : List Char) :
    (contexts before text).length = text.length + 1 := by
  induction text generalizing before with
  | nil => rfl
  | cons c rest ih => rw [contexts, List.length_cons, ih, List.length_cons]

namespace Carries

variable {n : Nat} {step next : Marks → Marks} {r q : Nat → Nat → Prop}

/-- Nothing moves. -/
lemma id : Carries n id Eq where
  length _ h := h
  marked marks _ j := by simp

/-- One step after the other. -/
lemma comp (hstep : Carries n step r) (hnext : Carries n next q) :
    Carries n (fun marks => next (step marks)) (fun i j => ∃ k, r i k ∧ q k j) where
  length marks h := hnext.length _ (hstep.length marks h)
  marked marks h j := by
    rw [hnext.marked _ (hstep.length marks h)]
    simp only [hstep.marked marks h]
    constructor
    · rintro ⟨k, ⟨i, hi, hk⟩, hj⟩
      exact ⟨i, hi, k, hk, hj⟩
    · rintro ⟨i, hi, k, hk, hj⟩
      exact ⟨k, ⟨i, hi, hk⟩, hj⟩

/-- Either of two steps. -/
lemma merge (hstep : Carries n step r) (hnext : Carries n next q) :
    Carries n (fun marks => Pattern.merge (step marks) (next marks))
      (fun i j => r i j ∨ q i j) where
  length marks h := by
    rw [Pattern.merge, List.length_zipWith, hstep.length marks h, hnext.length marks h,
      Nat.min_self]
  marked marks h j := by
    have hlength : (step marks).length = (next marks).length := by
      rw [hstep.length marks h, hnext.length marks h]
    have hor : (Pattern.merge (step marks) (next marks))[j]? = some true ↔
        (step marks)[j]? = some true ∨ (next marks)[j]? = some true := by
      rw [Pattern.merge, List.getElem?_zipWith]
      by_cases hj : j < (step marks).length
      · simp [List.getElem?_eq_getElem hj, List.getElem?_eq_getElem (hlength ▸ hj)]
      · simp [List.getElem?_eq_none (Nat.le_of_not_lt hj),
          List.getElem?_eq_none (hlength ▸ Nat.le_of_not_lt hj)]
    rw [hor, hstep.marked marks h, hnext.marked marks h]
    simp only [and_or_left, exists_or]

/-- One more step first, also where a set does not change any more. -/
lemma iterate_succ (step : Marks → Marks) (k : Nat) (marks : Marks) :
    iterate step (k + 1) marks = iterate step k (step marks) := by
  by_cases h : step marks = marks
  · rw [iterate, if_pos h, h]
    cases k with
    | zero => rfl
    | succ k => rw [iterate, if_pos h]
  · rw [iterate, if_neg h]

/-- A number of steps. -/
lemma iterate (hstep : Carries n step r) (k : Nat) :
    Carries n (Pattern.iterate step k) (Repeats r k) := by
  induction k with
  | zero => exact id
  | succ k ih =>
    have hsucc : Pattern.iterate step (k + 1) = fun marks => Pattern.iterate step k (step marks) :=
      funext (iterate_succ step k)
    rw [hsucc]
    exact hstep.comp ih

/-- Any number of steps up to a bound. -/
theorem reach (hstep : Carries n step r) (k : Nat) :
    Carries n (Pattern.reach step k) (fun i j => ∃ m, m ≤ k ∧ Repeats r m i j) := by
  have hmerge := (id.merge hstep).iterate k
  exact ⟨hmerge.length, fun marks h j => by
    rw [Pattern.reach]
    refine (hmerge.marked marks h j).trans ?_
    simp only [Repeats.reflexive_iff]⟩

/-- One character of a set. -/
lemma pass (set : CharSet) (text : List Char) :
    Carries (text.length + 1) (Pattern.pass set text) (Leads text (one set)) where
  length marks h := by
    rw [Pattern.pass, List.length_cons, List.length_zipWith, h]
    omega
  marked marks _ j := by
    cases j with
    | zero => simp [Pattern.pass, Leads]
    | succ j =>
      rw [Pattern.pass, List.getElem?_cons_succ, getElem?_zipWith_and]
      constructor
      · rintro ⟨hj, hc⟩
        exact ⟨j, hj, hc, rfl⟩
      · rintro ⟨i, hi, hc, hij⟩
        obtain rfl := Nat.succ.inj hij
        exact ⟨hi, hc⟩

/-- A look. -/
lemma keep (l : Look) (text : List Char) :
    Carries (text.length + 1) (Pattern.keep l text) (Leads text (look l)) where
  length marks h := by
    rw [Pattern.keep, List.length_zipWith, h, length_contexts, Nat.min_self]
  marked marks h j := by
    have hlook (i : Nat) (hi : marks[i]? = some true) :
        (∃ c, (contexts none text)[i]? = some c ∧ l.holds c.1 c.2 = true) ↔
          l.holds (before? text i) text[i]? = true := by
      have hlength : i ≤ text.length := by
        have := (List.getElem?_eq_some_iff.1 hi).1
        omega
      have hbefore : (if i = 0 then none else before? text i) = before? text i := by
        cases i <;> rfl
      simp [getElem?_contexts, hlength, hbefore]
    rw [Pattern.keep, getElem?_zipWith_and (fun c : Option Char × Option Char => l.holds c.1 c.2)]
    constructor
    · rintro ⟨hj, hc⟩
      exact ⟨j, hj, (hlook j hj).1 hc, rfl⟩
    · rintro ⟨i, hi, hl, rfl⟩
      exact ⟨hi, (hlook i hi).2 hl⟩

end Carries

/-! ## Patterns -/

/-- **Following all ways at once.** Behind a pattern those positions are marked to which it leads
from a position that was marked.

**Proof sketch.** Induction on the pattern. A repetition without limit makes only as many steps as
there are positions, which is enough since patterns lead forward and steps that stay where they are
can be left out. -/
theorem advance_carries (text : List Char) (p : Pattern) :
    Carries (text.length + 1) (advance text p) (Leads text p) := by
  induction p with
  | empty => exact .id
  | one s => exact .pass s text
  | look l => exact .keep l text
  | seq p q ihp ihq => exact ihp.comp ihq
  | alt p q ihp ihq => exact ihp.merge ihq
  | capture p ih => exact ih
  | again p least most ih =>
    have hrun (more : Nat) := (ih.iterate least).comp (ih.reach more)
    cases most with
    | some most =>
      refine ⟨(hrun (most - least)).length, fun marks h j => ?_⟩
      refine ((hrun (most - least)).marked marks h j).trans (exists_congr fun i => ?_)
      have hmax : least + (most - least) = max least most := by omega
      simp [Repeats.split_iff, Leads, hmax]
    | none =>
      refine ⟨(hrun (text.length + 1)).length, fun marks h j => ?_⟩
      refine ((hrun (text.length + 1)).marked marks h j).trans (exists_congr fun i => ?_)
      refine and_congr_right fun hi => ?_
      have hlength : i ≤ text.length := by
        have := (List.getElem?_eq_some_iff.1 hi).1
        omega
      constructor
      · rintro ⟨k, hk, m, -, hj⟩
        exact ⟨least + m, Nat.le_add_right least m, nofun, Repeats.add.2 ⟨k, hk, hj⟩⟩
      · rintro ⟨n, hn, -, hj⟩
        obtain ⟨m, rfl⟩ := Nat.exists_eq_add_of_le hn
        obtain ⟨k, hk, hj⟩ := Repeats.add.1 hj
        obtain ⟨m', hm', hshort⟩ := hj.shorten fun _ _ => Leads.le
        have hk' := hk.preserves (fun _ _ h hi => Leads.le_length h hi) hlength
        have hj' := hj.preserves (fun _ _ h hi => Leads.le_length h hi) hk'
        exact ⟨k, hk, m', by omega, hshort⟩

/-- A pattern occurs in a text if it leads somewhere from one of the positions of the text. -/
theorem occursIn_iff (p : Pattern) (text : String) :
    p.occursIn text = true ↔ ∃ i j, i ≤ text.toList.length ∧ Leads text.toList p i j := by
  have hall (i : Nat) : (List.replicate (text.toList.length + 1) true)[i]? = some true ↔
      i ≤ text.toList.length := by
    rw [List.getElem?_replicate]
    split <;> simp <;> omega
  have hmarked := (advance_carries text.toList p).marked _ (List.length_replicate (a := true))
  simp only [occursIn, List.any_eq_true, List.mem_iff_getElem?, id_eq, exists_eq_right, hmarked,
    hall]
  exact exists_comm

/-- A pattern between looks for the start and the end of a text leads through all of it. -/
lemma occursIn_anchored (p : Pattern) (text : String) :
    (sequence [.look .start, p, .look .stop]).occursIn text = true ↔
      Leads text.toList p 0 text.toList.length := by
  have hstart (i : Nat) (hi : i ≤ text.toList.length) :
      Look.start.holds (before? text.toList i) text.toList[i]? = true ↔ i = 0 := by
    cases i with
    | zero => simp [Look.holds, before?]
    | succ i => simp [Look.holds, before?, List.getElem?_eq_getElem hi]
  have hstop (j : Nat) (hj : j ≤ text.toList.length) :
      Look.stop.holds (before? text.toList j) text.toList[j]? = true ↔
        j = text.toList.length := by
    rw [Look.holds, Option.isNone_iff_eq_none, List.getElem?_eq_none_iff]
    omega
  rw [occursIn_iff]
  constructor
  · rintro ⟨i, j, hi, i', ⟨hi', rfl⟩, k, hp, k', ⟨hk, rfl⟩, -⟩
    obtain rfl := (hstart i hi).1 hi'
    obtain rfl := (hstop k (hp.le_length hi)).1 hk
    exact hp
  · intro hp
    exact ⟨0, _, Nat.zero_le _, 0, ⟨(hstart 0 (Nat.zero_le _)).2 rfl, rfl⟩, _, hp, _,
      ⟨(hstop _ (Nat.le_refl _)).2 rfl, rfl⟩, rfl⟩

end Pattern

end Sift
