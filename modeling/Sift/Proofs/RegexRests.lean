import Mathlib.Tactic.Lemma
import Sift.Pattern.Reader

/-!
# What readers of regular expressions leave

A reader takes something from the front of a text and leaves the rest. What it leaves is never
longer than the text, and shorter if it has to take a character; most readers pass over blanks and
comments before they do. Hence the bounds on their numbers of steps are never reached.

## Main results

* `Sift.RegexFlags.skip_length_le`, `Sift.RegexFlags.escape?_length_lt`,
  `Sift.RegexFlags.classRest?_length_lt_skip`: the same for blanks, escapes and classes.
* `Sift.Regex.reads_length_le`: the same for sequences and choices.
-/

set_option autoImplicit false

namespace Sift

namespace RegexFlags

variable {f : RegexFlags} {cs rest : List Char}

/-! ## Blanks and escapes -/

/-- Dropping blanks makes no text longer. -/
lemma dropBlanks_length_le (inside : Bool) (cs : List Char) :
    (dropBlanks inside cs).length ≤ cs.length := by
  fun_induction dropBlanks inside cs <;> grind

/-- Skipping blanks and comments makes no text longer. -/
theorem skip_length_le (f : RegexFlags) (cs : List Char) : (f.skip cs).length ≤ cs.length := by
  rw [skip]
  split
  · exact dropBlanks_length_le false cs
  · exact Nat.le_refl _

/-- A character behind what was skipped leaves a shorter text. -/
lemma skip_cons_length_lt {c : Char} (h : f.skip cs = c :: rest) : rest.length < cs.length := by
  have hskip := f.skip_length_le cs
  rwa [h] at hskip

/-- A character that is no blank and starts no comment is not passed over. -/
lemma skip_cons {c : Char} (hblank : isBlank c = false) (hcomment : c ≠ '#') (cs : List Char) :
    f.skip (c :: cs) = c :: cs := by
  simp [skip, dropBlanks, hblank, hcomment]

/-- A code leaves no longer text. -/
lemma fixedHex?_length_le {k n m : Nat} (h : f.fixedHex? k n cs = some (m, rest)) :
    rest.length ≤ cs.length := by
  fun_induction fixedHex? f k n cs <;> grind [skip_length_le]

/-- A code of at least one digit leaves a shorter text. -/
lemma fixedHex?_length_lt {k n m : Nat} (h : f.fixedHex? (k + 1) n cs = some (m, rest)) :
    rest.length < cs.length := by
  rw [fixedHex?.eq_def] at h
  grind [skip_length_le, → fixedHex?_length_le]

/-- Braces leave a shorter text than what was skipped to. -/
lemma braced?_length_lt_skip {k : Nat} {inner : List Char}
    (h : f.braced? k cs = some (inner, rest)) : rest.length < (f.skip cs).length := by
  fun_induction braced? f k cs generalizing inner <;>
    grind [skip_length_le, Option.map_eq_some_iff]

/-- Braces leave a shorter text. -/
lemma braced?_length_lt {k : Nat} {inner : List Char}
    (h : f.braced? k cs = some (inner, rest)) : rest.length < cs.length :=
  Nat.lt_of_lt_of_le (braced?_length_lt_skip h) (f.skip_length_le cs)

variable {atom : RegexAtom}

/-- A code leaves a shorter text than what was skipped to. -/
lemma hex?_length_lt_skip {k : Nat} (h : f.hex? (k + 1) cs = some (atom, rest)) :
    rest.length < (f.skip cs).length := by
  unfold hex? at h
  grind [skip_length_le, → braced?_length_lt, → fixedHex?_length_lt, Option.map_eq_some_iff]

/-- A code leaves no longer text. -/
lemma hex?_length_le {k : Nat} (h : f.hex? (k + 1) cs = some (atom, rest)) :
    rest.length ≤ cs.length :=
  Nat.le_of_lt (Nat.lt_of_lt_of_le (hex?_length_lt_skip h) (f.skip_length_le cs))

/-- A property leaves a shorter text than what was skipped to. -/
lemma property?_length_lt_skip {negated : Bool}
    (h : f.property? negated cs = some (atom, rest)) : rest.length < (f.skip cs).length := by
  unfold property? at h
  grind [skip_length_le, → braced?_length_lt, Option.map_eq_some_iff]

/-- A property leaves no longer text. -/
lemma property?_length_le {negated : Bool} (h : f.property? negated cs = some (atom, rest)) :
    rest.length ≤ cs.length :=
  Nat.le_of_lt (Nat.lt_of_lt_of_le (property?_length_lt_skip h) (f.skip_length_le cs))

/-- A boundary leaves no longer text. -/
lemma boundary?_length_le (h : f.boundary? cs = some (atom, rest)) :
    rest.length ≤ cs.length := by
  unfold boundary? at h
  grind [→ braced?_length_lt, Option.map_eq_some_iff]

/-- An escape leaves a shorter text. -/
theorem escape?_length_lt (h : f.escape? cs = some (atom, rest)) : rest.length < cs.length := by
  unfold escape? at h
  split at h
  · cases h
  · simp only at h
    split at h <;>
      grind [→ hex?_length_le, → property?_length_le, → boundary?_length_le,
        Option.map_eq_some_iff]

/-! ## Classes -/

/-- A class with a name leaves a shorter text. -/
lemma namedClass?_length_lt {ranges : Ranges} {negated : Bool}
    (h : namedClass? cs = some (ranges, negated, rest)) : rest.length < cs.length := by
  have hdrop (cs : List Char) : (cs.dropWhile fun c => c ≠ ':').length ≤ cs.length :=
    (List.dropWhile_suffix _).length_le
  unfold namedClass? at h
  split at h
  · grind [Option.map_eq_some_iff]
  · cases h

/-- An atom of a class leaves a shorter text. -/
lemma classAtom?_length_lt (h : f.classAtom? cs = some (atom, rest)) :
    rest.length < cs.length := by
  unfold classAtom? at h
  grind [→ escape?_length_lt]

/-- A member of a class leaves a shorter text. -/
lemma member?_length_lt {set : CharSet} (h : f.member? cs = some (set, rest)) :
    rest.length < cs.length := by
  unfold member? at h
  grind [→ classAtom?_length_lt, skip_length_le, Option.map_eq_some_iff]

/-- Behind its first atom a member leaves what follows the blanks there, or less. -/
lemma member?_length_le_skip {set : CharSet} {behind : List Char}
    (hatom : f.classAtom? cs = some (atom, behind)) (h : f.member? cs = some (set, rest)) :
    rest.length ≤ (f.skip behind).length := by
  unfold member? at h
  simp only [hatom] at h
  grind [→ classAtom?_length_lt, skip_length_le, Option.map_eq_some_iff]

/-- Hyphens at the start of a class leave no longer text. -/
lemma leadingHyphens_length_le (fuel : Nat) (s : ClassState) (cs : List Char) :
    (f.leadingHyphens fuel s cs).2.length ≤ cs.length := by
  fun_induction leadingHyphens f fuel s cs <;> grind [→ skip_cons_length_lt, skip_length_le]

/-- Hyphens at the start leave no longer text than what was skipped to. -/
lemma leadingHyphens_length_le_skip (fuel : Nat) (s : ClassState) (cs : List Char) :
    (f.leadingHyphens (fuel + 1) s cs).2.length ≤ (f.skip cs).length := by
  rw [leadingHyphens]
  grind [leadingHyphens_length_le]

/-- The start of a class leaves no longer text than what was skipped to. -/
lemma openClass_length_le_skip (f : RegexFlags) (cs : List Char) :
    (f.openClass cs).2.2.length ≤ (f.skip cs).length := by
  unfold openClass
  grind [leadingHyphens_length_le]

/-- The start of a class leaves no longer text. -/
lemma openClass_length_le (f : RegexFlags) (cs : List Char) :
    (f.openClass cs).2.2.length ≤ cs.length :=
  Nat.le_trans (f.openClass_length_le_skip cs) (f.skip_length_le cs)

/-- An operator between sets leaves a shorter text. -/
lemma read?_length_lt {o : SetOperator} (h : SetOperator.read? cs = some (o, rest)) :
    rest.length < cs.length := by
  unfold SetOperator.read? at h
  grind

/-- The rest of a class leaves a shorter text than what was skipped to. -/
theorem classRest?_length_lt_skip {fuel : Nat} {negated : Bool} {s : ClassState} {m : NestedSet}
    (h : f.classRest? fuel negated s cs = some (m, rest)) :
    rest.length < (f.skip cs).length := by
  fun_induction classRest? f fuel negated s cs generalizing m rest <;>
    grind [skip_length_le, → member?_length_lt, → read?_length_lt, → namedClass?_length_lt,
      openClass_length_le, Option.map_eq_some_iff]

/-- The rest of a class leaves a shorter text. -/
lemma classRest?_length_lt {fuel : Nat} {negated : Bool} {s : ClassState} {m : NestedSet}
    (h : f.classRest? fuel negated s cs = some (m, rest)) : rest.length < cs.length :=
  Nat.lt_of_lt_of_le (classRest?_length_lt_skip h) (f.skip_length_le cs)

/-- A hyphen never closes a class, so that something behind it is taken as well. -/
lemma classRest?_hyphen_length_lt {fuel : Nat} {negated : Bool} {s : ClassState} {m : NestedSet}
    (h : f.classRest? fuel negated s ('-' :: cs) = some (m, rest)) :
    rest.length < (f.skip cs).length := by
  have hskip (cs : List Char) : f.skip ('-' :: cs) = '-' :: cs :=
    skip_cons (by decide) (by decide) cs
  cases fuel with
  | zero => cases h
  | succ fuel =>
    rw [classRest?, hskip] at h
    split at h
    case h_4 =>
      split at h
      · rename_i o behind ho
        obtain rfl : cs = '-' :: behind := by
          unfold SetOperator.read? at ho
          grind
        rw [hskip]
        exact Nat.lt_succ_of_lt (classRest?_length_lt h)
      · split at h
        · rename_i set behind hm
          exact Nat.lt_of_lt_of_le (classRest?_length_lt h) (member?_length_le_skip rfl hm)
        · cases h
    all_goals
      rename_i heq
      simp at heq

/-- A class leaves a shorter text. -/
lemma class?_length_lt {m : NestedSet} (h : f.class? cs = some (m, rest)) :
    rest.length < cs.length :=
  Nat.lt_of_lt_of_le (classRest?_length_lt h) (f.openClass_length_le cs)

/-- A change of flags leaves a shorter text. -/
lemma change?_length_lt {f' : RegexFlags} {value : Bool} {seen : List Char} {c : Char}
    (h : f.change? value seen cs = some (f', c, rest)) : rest.length < cs.length := by
  fun_induction change? f value seen cs <;> grind

end RegexFlags

namespace Regex

open RegexFlags

variable {f : RegexFlags} {cs rest : List Char}

/-! ## Repetitions, groups and atoms -/

/-- The mark of a lazy repetition makes no text longer. -/
lemma dropLazy_length_le (cs : List Char) : (dropLazy cs).length ≤ cs.length := by
  unfold dropLazy
  grind

/-- Taking digits leaves no longer text. -/
lemma takeDigits_length_le (fuel : Nat) (cs : List Char) :
    (takeDigits f fuel cs).2.length ≤ cs.length := by
  fun_induction takeDigits f fuel cs <;> grind [skip_length_le]

/-- A number leaves no longer text. -/
lemma count?_length_le {n : Nat} (h : count? f cs = some (n, rest)) :
    rest.length ≤ cs.length := by
  have hdrop (cs : List Char) : (cs.dropWhile isBlank).length ≤ cs.length :=
    (List.dropWhile_suffix _).length_le
  unfold count? at h
  grind [takeDigits_length_le, skip_length_le]

/-- The bounds of a repetition leave a shorter text than what was skipped to. -/
lemma bounds?_length_lt_skip {least : Nat} {most : Option Nat}
    (h : bounds? f cs = some (least, most, rest)) : rest.length < (f.skip cs).length := by
  unfold bounds? at h
  grind [→ count?_length_le, skip_length_le, → skip_cons_length_lt]

/-- The bounds of a repetition leave a shorter text. -/
lemma bounds?_length_lt {least : Nat} {most : Option Nat}
    (h : bounds? f cs = some (least, most, rest)) : rest.length < cs.length :=
  Nat.lt_of_lt_of_le (bounds?_length_lt_skip h) (f.skip_length_le cs)

/-- The name of a group leaves a shorter text. -/
lemma groupName?_length_lt {first : Bool} {name : List Char}
    (h : groupName? first cs = some (name, rest)) : rest.length < cs.length := by
  fun_induction groupName? first cs generalizing name <;> grind [Option.map_eq_some_iff]

/-- The start of a group leaves no longer text than what was skipped to. -/
lemma groupStart?_length_le_skip {g : GroupStart} (h : groupStart? f cs = some (g, rest)) :
    rest.length ≤ (f.skip cs).length := by
  unfold groupStart? at h
  grind [→ groupName?_length_lt, → change?_length_lt, Option.map_eq_some_iff]

/-- The start of a group leaves no longer text. -/
lemma groupStart?_length_le {g : GroupStart} (h : groupStart? f cs = some (g, rest)) :
    rest.length ≤ cs.length :=
  Nat.le_trans (groupStart?_length_le_skip h) (f.skip_length_le cs)

/-- An atom leaves a shorter text. -/
lemma atom?_length_lt {p : Pattern} (h : atom? f cs = some (p, rest)) :
    rest.length < cs.length := by
  unfold atom? at h
  grind [→ escape?_length_lt, Option.map_eq_some_iff]

/-! ## Sequences and choices -/

/-- Sequences and choices leave what follows the blanks in front of them, or less. -/
theorem reads_length_le (fuel : Nat) :
    (∀ {before : List Nested} {s s' : State} {n : Nested},
      alternatives? fuel before s = some (n, s') →
        s'.rest.length ≤ (s.flags.skip s.rest).length) ∧
    ∀ {before : List Part} {s s' : State} {n : Nested},
      parts? fuel before s = some (n, s') → s'.rest.length ≤ (s.flags.skip s.rest).length := by
  induction fuel with
  | zero => exact ⟨nofun, nofun⟩
  | succ fuel ih =>
    obtain ⟨ihalternatives, ihparts⟩ := ih
    have hskip := skip_length_le
    constructor
    · intro before s s' n h
      rw [alternatives?] at h
      grind
    · intro before s s' n h
      rw [parts?] at h
      have hlazy := dropLazy_length_le
      simp only at h
      split at h
      case h_7 => grind [→ bounds?_length_lt]
      case h_8 => grind [→ class?_length_lt]
      case h_9 => grind [→ groupStart?_length_le]
      case h_10 => grind [→ atom?_length_lt]
      all_goals grind

/-- Alternatives leave no longer text than what was skipped to. -/
lemma alternatives?_length_le {fuel : Nat} {before : List Nested} {s s' : State} {n : Nested}
    (h : alternatives? fuel before s = some (n, s')) :
    s'.rest.length ≤ (s.flags.skip s.rest).length :=
  (reads_length_le fuel).1 h

/-- The parts of a sequence leave no longer text than what was skipped to. -/
lemma parts?_length_le {fuel : Nat} {before : List Part} {s s' : State} {n : Nested}
    (h : parts? fuel before s = some (n, s')) :
    s'.rest.length ≤ (s.flags.skip s.rest).length :=
  (reads_length_le fuel).2 h

end Regex

end Sift
