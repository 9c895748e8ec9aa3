import Mathlib.Computability.Language
import Sift.Proofs.PatternRuns

/-!
# The language of a pattern

A pattern without looks matches runs of characters wherever they stand. It denotes the language of
these runs, which follows the pattern: one pattern after the other denotes the product of their
languages, and a repetition denotes the powers of a language. Between looks for the start and the
end of a text, a pattern occurs in the texts of its language only.

## Main definitions

* `Sift.Pattern.Spells`: a word stands between two positions of a text.
* `Sift.Pattern.Denotes`: a pattern leads over the words of a language.

## Main results

* `Sift.Pattern.Denotes.seq`, `Sift.Pattern.Denotes.star`: sequences and repetitions.
* `Sift.Pattern.Denotes.occursIn_anchored_iff`: texts that are matched as a whole.
-/

set_option autoImplicit false

open scoped Computability

namespace Sift

namespace Pattern

/-- A word stands between two positions of a text. -/
def Spells (text : List Char) (i j : Nat) (word : List Char) : Prop :=
  (∃ rest, text.drop i = word ++ rest) ∧ j = i + word.length

/-- A pattern leads over the words of a language, wherever they stand, and over nothing else. -/
def Denotes (p : Pattern) (L : Language Char) : Prop :=
  ∀ text i j, Leads text p i j ↔ ∃ word ∈ L, Spells text i j word

variable {text : List Char} {i j : Nat}

/-- Nothing is spelled from a position to itself only. -/
lemma spells_nil : Spells text i j [] ↔ i = j := by
  simp [Spells, eq_comm]

/-- Two words stand one behind the other. -/
lemma spells_append {u v : List Char} :
    Spells text i j (u ++ v) ↔ ∃ k, Spells text i k u ∧ Spells text k j v := by
  constructor
  · rintro ⟨⟨rest, hrest⟩, rfl⟩
    refine ⟨i + u.length, ⟨⟨v ++ rest, by rw [hrest, List.append_assoc]⟩, rfl⟩, ⟨rest, ?_⟩, ?_⟩
    · rw [← List.drop_drop, hrest, List.append_assoc, List.drop_left]
    · rw [List.length_append, Nat.add_assoc]
  · rintro ⟨_, ⟨⟨rest, hrest⟩, rfl⟩, ⟨rest', hrest'⟩, rfl⟩
    have hv : rest = v ++ rest' := by
      rw [← hrest', ← List.drop_drop, hrest, List.drop_left]
    refine ⟨⟨rest', by rw [hrest, hv, List.append_assoc]⟩, ?_⟩
    rw [List.length_append, Nat.add_assoc]

/-- The word between the start and the end of a text is the text. -/
lemma spells_whole {word : List Char} : Spells text 0 text.length word ↔ word = text := by
  constructor
  · rintro ⟨⟨rest, hrest⟩, hlength⟩
    rw [List.drop_zero] at hrest
    rw [hrest, List.length_append] at hlength
    have hnil : rest = [] := List.eq_nil_of_length_eq_zero (by omega)
    rw [hrest, hnil, List.append_nil]
  · rintro rfl
    exact ⟨⟨[], (List.append_nil _).symm⟩, (Nat.zero_add _).symm⟩

namespace Denotes

variable {p q : Pattern} {L M : Language Char}

/-- The empty pattern denotes the empty word. -/
lemma empty : Denotes .empty 1 := by
  intro text i j
  simp [Leads, Language.mem_one, spells_nil]

/-- A set denotes the words of one of its characters. -/
lemma one (s : CharSet) :
    Denotes (.one s) {word | ∃ c, word = [c] ∧ s.contains c.toNat = true} := by
  intro text i j
  have hspells (c : Char) : Spells text i j [c] ↔ text[i]? = some c ∧ j = i + 1 := by
    rw [Spells, ← List.head?_drop, List.head?_eq_some_iff]
    rfl
  constructor
  · rintro ⟨⟨c, hc, hs⟩, hj⟩
    exact ⟨[c], ⟨c, rfl, hs⟩, (hspells c).2 ⟨hc, hj⟩⟩
  · rintro ⟨_, ⟨c, rfl, hs⟩, hword⟩
    obtain ⟨hc, hj⟩ := (hspells c).1 hword
    exact ⟨⟨c, hc, hs⟩, hj⟩

/-- One pattern after the other. -/
theorem seq (hp : Denotes p L) (hq : Denotes q M) : Denotes (.seq p q) (L * M) := by
  intro text i j
  constructor
  · rintro ⟨k, hk, hj⟩
    obtain ⟨u, hu, huword⟩ := (hp text i k).1 hk
    obtain ⟨v, hv, hvword⟩ := (hq text k j).1 hj
    exact ⟨u ++ v, Language.append_mem_mul hu hv, spells_append.2 ⟨k, huword, hvword⟩⟩
  · rintro ⟨_, hword, h⟩
    obtain ⟨u, hu, v, hv, rfl⟩ := Language.mem_mul.1 hword
    obtain ⟨k, huword, hvword⟩ := spells_append.1 h
    exact ⟨k, (hp text i k).2 ⟨u, hu, huword⟩, (hq text k j).2 ⟨v, hv, hvword⟩⟩

/-- A pattern a number of times. -/
lemma repeats_iff (hp : Denotes p L) {n : Nat} :
    Repeats (Leads text p) n i j ↔ ∃ word ∈ L ^ n, Spells text i j word := by
  induction n generalizing i with
  | zero => simp [Repeats, Language.mem_one, spells_nil]
  | succ n ih =>
    constructor
    · rintro ⟨k, hk, hj⟩
      obtain ⟨u, hu, huword⟩ := (hp text i k).1 hk
      obtain ⟨v, hv, hvword⟩ := ih.1 hj
      rw [pow_succ']
      exact ⟨u ++ v, Language.append_mem_mul hu hv, spells_append.2 ⟨k, huword, hvword⟩⟩
    · rintro ⟨_, hword, h⟩
      rw [pow_succ'] at hword
      obtain ⟨u, hu, v, hv, rfl⟩ := Language.mem_mul.1 hword
      obtain ⟨k, huword, hvword⟩ := spells_append.1 h
      exact ⟨k, (hp text i k).2 ⟨u, hu, huword⟩, ih.2 ⟨v, hv, hvword⟩⟩

/-- A pattern any number of times. -/
theorem star (hp : Denotes p L) : Denotes (.again p 0 none) L∗ := by
  intro text i j
  simp only [Leads, Language.kstar_eq_iSup_pow, Language.mem_iSup, hp.repeats_iff]
  constructor
  · rintro ⟨n, -, -, word, hword, h⟩
    exact ⟨word, ⟨n, hword⟩, h⟩
  · rintro ⟨word, ⟨n, hword⟩, h⟩
    exact ⟨n, Nat.zero_le n, fun m hm => absurd hm (Option.not_mem_none m), word, hword, h⟩

/-- **Whole texts.** Between looks for the start and the end of a text, a pattern occurs in the
texts of its language. -/
theorem occursIn_anchored_iff (hp : Denotes p L) (text : String) :
    (sequence [.look .start, p, .look .stop]).occursIn text = true ↔ text.toList ∈ L := by
  rw [occursIn_anchored, hp]
  simp only [spells_whole, exists_eq_right]

end Denotes

end Pattern

end Sift
