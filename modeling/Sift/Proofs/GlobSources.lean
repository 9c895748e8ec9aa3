import Mathlib.Algebra.GroupWithZero.Nat
import Mathlib.Tactic.Lemma
import Sift.Pattern.Glob
import Sift.Pattern.Reader

/-!
# Reading the regular expressions of globs

A glob is handed over as the text of a regular expression. Whatever characters it consists of, this
text is read back as the parts of the glob, one after the other: a character with a special meaning
stands behind a backslash, and any other one for itself.

## Main definitions

* `Sift.Glob.pattern`: the pattern of a glob.

## Main results

* `Sift.Regex.parts?_atom`, `Sift.Regex.parts?_star`, `Sift.Regex.parts?_group`: one step of the
  reader for each kind of part.
* `Sift.Regex.parts?_sources`: the parts of a glob are read one after the other.
* `Sift.Pattern.ofRegex?_anchored`: an expression between marks for the start and the end.
* `Sift.Pattern.ofRegex?_glob`: the pattern that the regular expression of a glob is read as.
-/

set_option autoImplicit false

namespace Sift

namespace GlobPart

/-- The pattern of a part. -/
def pattern : GlobPart → Pattern
  | letter c => .letter c
  | one => .any
  | run => .anyRun

/-- How deep the pattern of a part is. -/
def depth : GlobPart → Nat
  | letter _ => 0
  | one => 0
  | run => 1

/-- How many steps it takes to read a part. -/
def steps (p : GlobPart) : Nat := p.depth + 1

/-- What a part is read as. -/
def read (p : GlobPart) : Regex.Part := ⟨⟨p.pattern, p.depth⟩, true⟩

end GlobPart

/-- The pattern of a glob. -/
def Glob.pattern (g : Glob) : Pattern := (Regex.sequence (g.map GlobPart.read)).pattern

/-- How many steps it takes to read a glob. -/
def Glob.steps (g : Glob) : Nat := (g.map GlobPart.steps).sum

/-- It takes no more steps than characters to read a glob. -/
lemma Glob.steps_le (g : Glob) : g.steps ≤ (g.flatMap GlobPart.source).length := by
  have hsource (p : GlobPart) : p.steps ≤ p.source.length := by
    cases p with
    | letter c =>
      rw [GlobPart.source]
      split <;> simp [GlobPart.steps, GlobPart.depth]
    | one | run => simp [GlobPart.steps, GlobPart.depth, GlobPart.source]
  induction g with
  | nil => exact Nat.le_refl 0
  | cons p g ih =>
    rw [List.flatMap_cons, List.length_append, steps, List.map_cons, List.sum_cons]
    exact Nat.add_le_add (hsource p) ih

/-- A character with a special meaning stands for itself behind a backslash. -/
lemma RegexFlags.escape?_special (f : RegexFlags) {c : Char} (h : isSpecial c = true)
    (rest : List Char) : f.escape? (c :: rest) = some (.char c, rest) := by
  simp only [isSpecial, List.contains_iff_mem, List.mem_cons, List.not_mem_nil, or_false] at h
  rcases h with rfl | rfl | rfl | rfl | rfl | rfl | rfl | rfl | rfl | rfl | rfl | rfl | rfl | rfl |
    rfl | rfl | rfl | rfl <;> rfl

namespace Regex

/-- The characters that are no part by themselves. -/
def isMark (c : Char) : Bool := [')', '|', '?', '*', '+', '\x7b', '[', '('].contains c

/-- A character without a meaning in expressions is no mark. -/
lemma isMark_of_plain {c : Char} (h : RegexFlags.isSpecial c = false) : isMark c = false := by
  rw [Bool.eq_false_iff] at h ⊢
  refine mt (fun hmark => ?_) h
  simp only [isMark, List.contains_iff_mem, List.mem_cons, List.not_mem_nil, or_false] at hmark
  rcases hmark with rfl | rfl | rfl | rfl | rfl | rfl | rfl | rfl <;> rfl

/-- A sequence is at most one deeper than its parts. -/
lemma sequence_depth_le {ps : List Part} {d : Nat} (h : ∀ p ∈ ps, p.nested.depth ≤ d) :
    (sequence ps).depth ≤ d + 1 := by
  have hmax (ds : List Nat) (m : Nat) (hm : m ≤ d) (hds : ∀ n ∈ ds, n ≤ d) :
      ds.foldl max m ≤ d := by
    induction ds generalizing m with
    | nil => exact hm
    | cons n ds ih =>
      rw [List.forall_mem_cons] at hds
      exact ih (max m n) (Nat.max_le.2 ⟨hm, hds.1⟩) hds.2
  rw [sequence.eq_def]
  split
  · exact Nat.le_succ_of_le (h _ (List.mem_singleton_self _))
  · exact Nat.zero_le _
  · refine Nat.succ_le_succ (hmax _ 0 (Nat.zero_le d) fun n hn => ?_)
    obtain ⟨p, hp, rfl⟩ := List.mem_map.1 hn
    exact h p hp

variable {fuel : Nat} {before : List Part} {names : List (List Char)}

/-- An atom is one more part. -/
theorem parts?_atom {c : Char} {rest tail : List Char} {p : Pattern} (hc : isMark c = false)
    (h : atom? .initial (c :: rest) = some (p, tail)) :
    parts? (fuel + 1) before ⟨.initial, names, c :: rest⟩ =
      parts? fuel (⟨⟨p, 0⟩, true⟩ :: before) ⟨.initial, names, tail⟩ := by
  have hskip : RegexFlags.initial.skip (c :: rest) = c :: rest := rfl
  rw [parts?]
  simp only [hskip]
  split
  case h_1 heq => cases heq
  case h_10 => rw [h]
  all_goals
    rename_i heq
    exact absurd (List.cons.inj heq).1 (ne_of_apply_ne isMark (by rw [hc]; decide))

/-- A star repeats the last part. -/
theorem parts?_star {n : Nested} {rest : List Char} :
    parts? (fuel + 1) (⟨n, true⟩ :: before) ⟨.initial, names, '*' :: rest⟩ =
      parts? fuel (⟨⟨.again n.pattern 0 none, n.depth + 1⟩, true⟩ :: before)
        ⟨.initial, names, dropLazy rest⟩ := by
  rw [parts?]
  rfl

/-- A closing parenthesis ends the parts. -/
lemma parts?_closing {rest : List Char} :
    parts? (fuel + 1) before ⟨.initial, names, ')' :: rest⟩ =
      some (sequence before.reverse, ⟨.initial, names, ')' :: rest⟩) := by
  rw [parts?]
  rfl

/-- A group that does not capture is one part. -/
theorem parts?_group {rest tail : List Char} {names' : List (List Char)} {n : Nested}
    {flags : RegexFlags}
    (h : alternatives? fuel [] ⟨.initial, names, rest⟩ = some (n, ⟨flags, names', ')' :: tail⟩)) :
    parts? (fuel + 1) before ⟨.initial, names, '(' :: '?' :: ':' :: rest⟩ =
      parts? fuel (⟨⟨n.pattern, n.depth + 1⟩, true⟩ :: before) ⟨.initial, names', tail⟩ := by
  have hstart : groupStart? .initial ('?' :: ':' :: rest) =
      some (.group .initial false none, rest) := rfl
  have hskip : RegexFlags.initial.skip ('(' :: '?' :: ':' :: rest) = '(' :: '?' :: ':' :: rest :=
    rfl
  rw [parts?]
  simp only [hskip, hstart, Option.any_none, Option.toList_none, List.nil_append, h]
  rfl

/-- The end of the text ends the parts. -/
lemma parts?_nil :
    parts? (fuel + 1) before ⟨.initial, names, []⟩ =
      some (sequence before.reverse, ⟨.initial, names, []⟩) := by
  rw [parts?]
  rfl

/-- Parts without a bar behind them are the only alternative. -/
lemma alternatives?_parts {s s' : State} {n : Nested} (h : parts? fuel [] s = some (n, s'))
    (hrest : s'.rest.head? ≠ some '|') : alternatives? (fuel + 1) [] s = some (n, s') := by
  rw [alternatives?, h]
  simp only
  split
  · rename_i heq
    simp [heq] at hrest
  · rfl

/-- A character without a special meaning stands for itself. -/
lemma atom?_plain {c : Char} (h : RegexFlags.isSpecial c = false) (rest : List Char) :
    atom? .initial (c :: rest) = some (.letter c, rest) := by
  rw [atom?.eq_def]
  split
  case h_6 heq =>
    cases heq
    rfl
  case h_1 heq => cases heq
  all_goals
    rename_i heq
    exact absurd (List.cons.inj heq).1
      (ne_of_apply_ne RegexFlags.isSpecial (by rw [h]; decide))

/-- A character with a special meaning stands for itself behind a backslash. -/
lemma atom?_special {c : Char} (h : RegexFlags.isSpecial c = true) (rest : List Char) :
    atom? .initial ('\\' :: c :: rest) = some (.letter c, rest) := by
  rw [atom?, RegexFlags.escape?_special _ h]
  rfl

/-- A part of a glob is read as what it stands for. -/
lemma parts?_source (p : GlobPart) {rest : List Char} (hrest : dropLazy rest = rest) :
    parts? (fuel + p.steps) before ⟨.initial, names, p.source ++ rest⟩ =
      parts? fuel (p.read :: before) ⟨.initial, names, rest⟩ := by
  cases p with
  | letter c =>
    by_cases hc : RegexFlags.isSpecial c
    · have hsource : (GlobPart.letter c).source ++ rest = '\\' :: c :: rest := by
        rw [GlobPart.source, if_pos hc]
        rfl
      rw [hsource]
      exact parts?_atom rfl (atom?_special hc rest)
    · have hplain : RegexFlags.isSpecial c = false := Bool.eq_false_iff.2 hc
      have hsource : (GlobPart.letter c).source ++ rest = c :: rest := by
        rw [GlobPart.source, if_neg hc]
        rfl
      rw [hsource]
      exact parts?_atom (isMark_of_plain hplain) (atom?_plain hplain rest)
  | one => exact parts?_atom rfl rfl
  | run =>
    -- A run is read in two steps: the dot, and the star that repeats it.
    have hdot : parts? (fuel + 2) before ⟨.initial, names, '.' :: '*' :: rest⟩ =
        parts? (fuel + 1) (⟨⟨.any, 0⟩, true⟩ :: before) ⟨.initial, names, '*' :: rest⟩ :=
      parts?_atom rfl rfl
    refine hdot.trans ?_
    rw [parts?_star, hrest]
    rfl

/-- No part of a glob starts with the mark of a short repetition. -/
lemma dropLazy_sources (g : Glob) {rest : List Char} (hrest : dropLazy rest = rest) :
    dropLazy (g.flatMap GlobPart.source ++ rest) = g.flatMap GlobPart.source ++ rest := by
  cases g with
  | nil => exact hrest
  | cons p g =>
    cases p with
    | letter c =>
      by_cases hc : RegexFlags.isSpecial c
      · rw [List.flatMap_cons, GlobPart.source, if_pos hc]
        rfl
      · have hne : c ≠ '?' := by
          rintro rfl
          exact hc rfl
        rw [List.flatMap_cons, GlobPart.source, if_neg hc]
        simp only [List.cons_append, List.nil_append]
        rw [dropLazy]
        intro rest heq
        exact hne (List.cons.inj heq).1
    | one | run => rfl

/-- **Reading a glob.** The regular expression of a glob is read as its parts, one after the
other. -/
theorem parts?_sources (g : Glob) {rest : List Char} (hrest : dropLazy rest = rest) :
    parts? (fuel + Glob.steps g) before ⟨.initial, names, g.flatMap GlobPart.source ++ rest⟩ =
      parts? fuel ((g.map GlobPart.read).reverse ++ before) ⟨.initial, names, rest⟩ := by
  induction g generalizing before with
  | nil => rfl
  | cons p g ih =>
    have hfuel : fuel + Glob.steps (p :: g) = fuel + Glob.steps g + p.steps := by
      simp only [Glob.steps, List.map_cons, List.sum_cons]
      omega
    rw [hfuel, List.flatMap_cons, List.append_assoc, parts?_source p (dropLazy_sources g hrest),
      ih, List.map_cons, List.reverse_cons, List.append_assoc, List.singleton_append]

end Regex

namespace Pattern

/-- An expression between marks for the start and the end of a text. -/
theorem ofRegex?_anchored {regex : String} {n : Regex.Nested} {flags : RegexFlags}
    {names : List (List Char)} (h : Regex.alternatives? (2 * regex.toList.length + 11) []
      ⟨.initial, [], regex.toList ++ [')', '$']⟩ = some (n, ⟨flags, names, [')', '$']⟩)) :
    ofRegex? (anchored regex) = if n.depth + 2 ≤ Regex.maxDepth then
      some (sequence [.look .start, n.pattern, .look .stop]) else none := by
  have hcaret : Regex.atom? .initial ('^' :: '(' :: '?' :: ':' :: regex.toList ++ [')', '$']) =
    some (.look .start, '(' :: '?' :: ':' :: regex.toList ++ [')', '$']) := rfl
  have hdollar : Regex.atom? .initial ['$'] = some (.look .stop, []) := rfl
  have hparts : Regex.parts? (2 * regex.toList.length + 13) []
      ⟨.initial, [], '^' :: '(' :: '?' :: ':' :: regex.toList ++ [')', '$']⟩ =
        some (⟨sequence [.look .start, n.pattern, .look .stop], n.depth + 2⟩,
          ⟨.initial, names, []⟩) := by
    refine (Regex.parts?_atom rfl hcaret).trans ((Regex.parts?_group h).trans ?_)
    refine (Regex.parts?_atom rfl hdollar).trans (Regex.parts?_nil.trans ?_)
    simp [Regex.sequence]
  have hlength : 2 * (anchored regex).length + 2 = 2 * regex.toList.length + 14 := by
    simp [anchored]
    omega
  have halternatives : Regex.alternatives? (2 * regex.toList.length + 14) []
      ⟨.initial, [], anchored regex⟩ =
        some (⟨sequence [.look .start, n.pattern, .look .stop], n.depth + 2⟩,
          ⟨.initial, names, []⟩) :=
    Regex.alternatives?_parts hparts nofun
  rw [ofRegex?, hlength, halternatives]

/-- **Globs as regular expressions.** The regular expression of a glob between marks for the start
and the end of a text is read as the pattern of the glob between looks for them. -/
theorem ofRegex?_glob (g : Glob) :
    ofRegex? (anchored g.regex) = some (sequence [.look .start, g.pattern, .look .stop]) := by
  have htext : g.regex.toList = g.flatMap GlobPart.source := String.toList_ofList
  -- The bound on the steps leaves one for the parenthesis behind the glob.
  obtain ⟨fuel, hfuel⟩ : ∃ fuel, 2 * g.regex.toList.length + 10 = fuel + 1 + Glob.steps g :=
    ⟨2 * g.regex.toList.length + 9 - Glob.steps g, by
      have hsteps := Glob.steps_le g
      rw [← htext] at hsteps
      omega⟩
  have hparts : Regex.parts? (2 * g.regex.toList.length + 10) []
      ⟨.initial, [], g.regex.toList ++ [')', '$']⟩ =
        some (Regex.sequence (g.map GlobPart.read), ⟨.initial, [], [')', '$']⟩) := by
    rw [hfuel, htext, Regex.parts?_sources g rfl, Regex.parts?_closing, List.append_nil,
      List.reverse_reverse]
  have hdepth : (Regex.sequence (g.map GlobPart.read)).depth ≤ 2 := by
    refine Regex.sequence_depth_le fun q hq => ?_
    obtain ⟨p, -, rfl⟩ := List.mem_map.1 hq
    cases p <;> simp [GlobPart.read, GlobPart.depth]
  have hmax : (Regex.sequence (g.map GlobPart.read)).depth + 2 ≤ Regex.maxDepth := by
    rw [Regex.maxDepth]
    omega
  rw [ofRegex?_anchored (Regex.alternatives?_parts hparts nofun), if_pos hmax]
  rfl

end Pattern

end Sift
