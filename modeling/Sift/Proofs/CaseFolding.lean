import Mathlib.Data.List.Chain
import Mathlib.Tactic.Lemma
import Sift.Unicode.Listing

/-!
# Characters that differ in case only

The table of foldings has runs in ascending order, and the folding of a code point is not folded
again. Hence the variants of a code point are the code points with the same folding, and a set of
one character that is closed under change of case has the characters with the same folding in it.

## Main definitions

* `Sift.FoldingRun.Precedes`: the order of the table.
* `Sift.FoldingRun.misses`: a run covers no folding of another one.

## Main results

* `Sift.foldCode_foldCode`: foldings stay.
* `Sift.mem_caseVariants_iff`: the variants have the same folding.
* `Sift.CharSet.contains_anyCase_single`: a character in any case.
-/

set_option autoImplicit false

namespace Sift

/-! ## The table -/

namespace FoldingRun

/-- A run lies in front of another one. -/
def Precedes (r s : FoldingRun) : Prop := r.first ≤ r.last ∧ r.last < s.first

instance : DecidableRel Precedes := fun r s =>
  inferInstanceAs (Decidable (r.first ≤ r.last ∧ r.last < s.first))

instance : Trans Precedes Precedes Precedes where
  trans h h' := ⟨h.1, Nat.lt_of_lt_of_le h.2 (Nat.le_of_lt (Nat.lt_of_le_of_lt h'.1 h'.2))⟩

/-- The foldings of a run lie in front of another run, behind it, or between its code points. -/
def misses (r s : FoldingRun) : Bool :=
  Nat.blt (r.target r.last) s.first || Nat.blt s.last (r.target r.first) ||
    ((Nat.beq r.step 2 || Nat.beq r.first r.last) && Nat.beq s.step 2 &&
      Nat.beq ((r.target r.first + s.first) % 2) 1)

/-- A run covers every code from its first to its last one, at its step. -/
lemma covers_iff (r : FoldingRun) (n : Nat) :
    r.covers n = true ↔ r.first ≤ n ∧ n ≤ r.last ∧ (n - r.first) % r.step = 0 := by
  simp [covers, and_assoc]

/-- The foldings of a run that misses another one are not covered by it. -/
lemma not_covers_target {r s : FoldingRun} (hr : 0 ≤ r.first + r.shift)
    (h : r.misses s = true) {n : Nat} (hn : r.covers n = true) :
    ¬ s.covers (r.target n) = true := by
  rw [covers_iff] at hn ⊢
  obtain ⟨hfirst, hlast, hstep⟩ := hn
  rintro ⟨hsfirst, hslast, hsstep⟩
  simp only [misses, Bool.or_eq_true, Bool.and_eq_true, Nat.blt_eq, Nat.beq_eq] at h
  simp only [target] at h hsfirst hslast hsstep
  rcases h with (hfront | hbehind) | ⟨⟨heven | hsingle, hseven⟩, hodd⟩
  · omega
  · omega
  · rw [heven] at hstep
    rw [hseven] at hsstep
    omega
  · obtain rfl : n = r.first := by omega
    rw [hseven] at hsstep
    omega

end FoldingRun

/-- The runs of the table ascend. -/
lemma foldingRuns_isChain : foldingRuns.IsChain FoldingRun.Precedes := by decide +kernel

/-- The runs are in the order of their codes and do not overlap. -/
lemma foldingRuns_pairwise : foldingRuns.Pairwise FoldingRun.Precedes :=
  List.isChain_iff_pairwise.1 foldingRuns_isChain

/-- No run of the table covers a folding. -/
lemma foldingRuns_misses : (foldingRuns.all fun r => foldingRuns.all r.misses) = true := by
  decide +kernel

/-- Runs are folded to code points of characters, and the least code point is no character's. -/
lemma foldingRuns_valid : ∀ r ∈ foldingRuns, 0 < r.first ∧ r.first ≤ r.last ∧
    (0 ≤ r.first + r.shift ∧ r.last + r.shift < 0xD800 ∨
      0xDFFF < r.first + r.shift ∧ r.last + r.shift < 0x110000) := by
  decide +kernel

/-! ## Foldings -/

/-- A code point of a run is folded by the distance of the run. -/
lemma foldIn_of_covers {runs : List FoldingRun} (hruns : runs.Pairwise FoldingRun.Precedes)
    {r : FoldingRun} (hr : r ∈ runs) {n : Nat} (hn : r.covers n = true) :
    foldIn runs n = r.target n := by
  have hbounds := (r.covers_iff n).1 hn
  induction runs with
  | nil => cases hr
  | cons s rest ih =>
    obtain ⟨hs, hrest⟩ := List.pairwise_cons.1 hruns
    rcases List.mem_cons.1 hr with rfl | hmem
    · rw [foldIn, if_neg (by omega), if_pos hn, FoldingRun.target]
    · have hprecedes := hs r hmem
      have hcovers : ¬ s.covers n = true := by
        rw [s.covers_iff]
        have := hprecedes.2
        omega
      have hfirst : ¬ n < s.first := by
        have := hprecedes.1
        have := hprecedes.2
        omega
      rw [foldIn, if_neg hfirst, if_neg hcovers, ih hrest hmem]

/-- A code point of no run is its own folding. -/
lemma foldIn_of_not_covers {runs : List FoldingRun} {n : Nat}
    (hn : ∀ r ∈ runs, ¬ r.covers n = true) : foldIn runs n = n := by
  induction runs with
  | nil => rfl
  | cons s rest ih =>
    rw [foldIn, if_neg (hn s List.mem_cons_self), ih fun r hr => hn r (List.mem_cons_of_mem s hr),
      ite_self]

/-- A code that a run covers has the target of the run. -/
lemma foldCode_of_covers {r : FoldingRun} (hr : r ∈ foldingRuns) {n : Nat}
    (hn : r.covers n = true) : foldCode n = r.target n :=
  foldIn_of_covers foldingRuns_pairwise hr hn

/-- A code that no run covers folds to itself. -/
lemma foldCode_of_not_covers {n : Nat} (hn : ∀ r ∈ foldingRuns, ¬ r.covers n = true) :
    foldCode n = n :=
  foldIn_of_not_covers hn

/-- The folding of a code point is its own folding. -/
theorem foldCode_foldCode (n : Nat) : foldCode (foldCode n) = foldCode n := by
  by_cases hn : ∃ r ∈ foldingRuns, r.covers n = true
  · obtain ⟨r, hr, hn⟩ := hn
    rw [foldCode_of_covers hr hn]
    obtain ⟨-, -, hvalid⟩ := foldingRuns_valid r hr
    refine foldCode_of_not_covers fun s hs => FoldingRun.not_covers_target (by omega) ?_ hn
    exact List.all_eq_true.1 (List.all_eq_true.1 foldingRuns_misses r hr) s hs
  · have hfold : foldCode n = n := foldCode_of_not_covers fun r hr h => hn ⟨r, hr, h⟩
    rw [hfold, hfold]

/-- **Variants.** The variants of a code point are the code points with the same folding. -/
theorem mem_caseVariants_iff (m n : Nat) : m ∈ caseVariants n ↔ foldCode m = foldCode n := by
  have hsource {r : FoldingRun} (hr : r ∈ foldingRuns) {m : Nat} (hm : r.covers m = true) :
      foldCode m = foldCode n ↔ m = ((foldCode n : Int) - r.shift).toNat := by
    obtain ⟨hpos, -, hvalid⟩ := foldingRuns_valid r hr
    have hbounds := (r.covers_iff m).1 hm
    rw [foldCode_of_covers hr hm, FoldingRun.target]
    omega
  rw [caseVariants, List.mem_cons, List.mem_filterMap]
  constructor
  · rintro (rfl | ⟨r, hr, hm⟩)
    · exact foldCode_foldCode n
    · obtain ⟨hcovers, hm⟩ := Option.ite_none_right_eq_some.1 hm
      have hm := Option.some.inj hm
      exact (hsource hr (hm ▸ hcovers)).2 hm.symm
  · intro h
    by_cases hm : ∃ r ∈ foldingRuns, r.covers m = true
    · obtain ⟨r, hr, hm⟩ := hm
      have hm' := (hsource hr hm).1 h
      exact .inr ⟨r, hr, by rw [← hm', if_pos hm]⟩
    · exact .inl ((foldCode_of_not_covers fun r hr hc => hm ⟨r, hr, hc⟩).symm.trans h)

/-- Characters are folded to characters. -/
lemma toNat_simpleFold (c : Char) : (simpleFold c).toNat = foldCode c.toNat := by
  have hvalid : (foldCode c.toNat).isValidChar := by
    by_cases hc : ∃ r ∈ foldingRuns, r.covers c.toNat = true
    · obtain ⟨r, hr, hc⟩ := hc
      obtain ⟨-, -, hrange⟩ := foldingRuns_valid r hr
      have hbounds := (r.covers_iff c.toNat).1 hc
      rw [foldCode_of_covers hr hc, FoldingRun.target, Nat.isValidChar]
      omega
    · rw [foldCode_of_not_covers fun r hr h => hc ⟨r, hr, h⟩]
      exact c.valid
  rw [simpleFold, Char.ofNat, dif_pos hvalid]
  rfl

/-- Characters have the same folding if their code points have. -/
lemma simpleFold_eq_iff (c d : Char) :
    simpleFold c = simpleFold d ↔ foldCode c.toNat = foldCode d.toNat := by
  rw [← toNat_simpleFold, ← toNat_simpleFold, Char.toNat_inj]

/-- A single character contains itself only. -/
lemma CharSet.contains_single (c : Char) (n : Nat) :
    (CharSet.single c).contains n = true ↔ n = c.toNat := by
  simp only [single, contains, Ranges.contains]
  grind

/-- A character is in the set of one character in any case if their foldings are the same. -/
theorem CharSet.contains_anyCase_single (c d : Char) :
    (CharSet.anyCase (.single c)).contains d.toNat = true ↔ simpleFold c = simpleFold d := by
  rw [contains, List.any_eq_true, simpleFold_eq_iff, ← mem_caseVariants_iff]
  constructor
  · rintro ⟨m, hm, hc⟩
    exact (contains_single c m).1 hc ▸ hm
  · intro hc
    exact ⟨c.toNat, hc, (contains_single c c.toNat).2 rfl⟩

end Sift
