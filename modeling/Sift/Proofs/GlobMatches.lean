import Sift.Proofs.CaseFolding
import Sift.Proofs.GlobSources
import Sift.Proofs.PatternLanguages
import Sift.Query.Predicate

/-!
# What phrases, starts and globs match

A leaf that asks for a phrase, for texts with a certain start, or for texts in which a glob occurs,
hands over a glob. Its regular expression is read back as its parts, whatever characters they are,
so that it matches the words of the glob: characters stand for those that differ from them in case
only. A phrase has no other parts and is found whatever it consists of.

A place for one character or for a run of them takes any character but a line feed. Hence nothing
is found that should not be, and nothing is missed among texts of one line; but a start is missed
if a line feed follows it, and a glob if there is a line feed in front of it, behind it or in one of
its places. A glob is refused if its automaton is too large.

## Main definitions

* `Sift.Glob.language`: the words of a glob, given the characters that its places take.
* `Sift.Glob.Fits`: the automaton of a glob is small enough.
* `Sift.Condition.Begins`, `Sift.Condition.Includes`: a text begins with another one; a word of a
  glob is part of it.
* `Sift.Query.Seeks`: a leaf looks for values whose text has a property.

## Main results

* `Sift.Glob.pattern_denotes`: the pattern of a glob denotes its words.
* `Sift.Glob.fits_of_length_le`: globs of few parts are small enough.
* `Sift.Condition.compileRegex_glob_of_fits`: the test of a glob.
* `Sift.Query.starts_and_globs_seek`: what leaves with starts and globs look for.
* `Sift.Query.start_misses_second_line`: a start that is missed.
* `Sift.Query.phrase_matches_iff`: what leaves with phrases match.
-/

set_option autoImplicit false

open scoped Computability

namespace Sift

/-! ## The words of a glob -/

/-- The words that a part of a glob stands for, given the characters that a place takes. -/
def GlobPart.language (dot : Char → Prop) : GlobPart → Language Char
  | letter c => {word | ∃ d, word = [d] ∧ simpleFold c = simpleFold d}
  | one => {word | ∃ d, word = [d] ∧ dot d}
  | run => {word | ∀ d ∈ word, dot d}

namespace Glob

/-- The words that a glob stands for: words of its parts, one after the other. -/
def language (dot : Char → Prop) (g : Glob) : Language Char :=
  (g.map (GlobPart.language dot)).prod

variable {dot : Char → Prop}

/-- The words of a first part are followed by those of the others. -/
lemma language_cons (p : GlobPart) (g : Glob) :
    language dot (p :: g) = p.language dot * language dot g :=
  rfl

/-- The words of a glob are followed by those of another one. -/
lemma language_append (g h : Glob) :
    language dot (g ++ h) = language dot g * language dot h := by
  rw [language, List.map_append, List.prod_append]
  rfl

/-- A run of any characters has every word of characters that the dot accepts. -/
lemma mem_language_run {word : List Char} :
    word ∈ language dot [.run] ↔ ∀ d ∈ word, dot d := by
  rw [language, List.map_singleton, List.prod_singleton]
  rfl

/-- The words of a text without meanings of their own are the texts that differ in case only. -/
lemma mem_language_letters {cs word : List Char} :
    word ∈ language dot (cs.map .letter) ↔ word.map simpleFold = cs.map simpleFold := by
  induction cs generalizing word with
  | nil => simp [language, Language.mem_one]
  | cons c cs ih =>
    rw [List.map_cons, language_cons, Language.mem_mul]
    constructor
    · rintro ⟨_, ⟨d, rfl, hd⟩, rest, hrest, rfl⟩
      simp [hd, ih.1 hrest]
    · intro h
      cases word with
      | nil => cases h
      | cons d rest =>
        obtain ⟨hd, hrest⟩ := List.cons.inj h
        exact ⟨[d], ⟨d, rfl, hd.symm⟩, rest, ih.2 hrest, rfl⟩

/-- Places that take more characters of a word leave it among the words. -/
lemma language_mono {dot' : Char → Prop} {g : Glob} {word : List Char}
    (h : ∀ d ∈ word, dot d → dot' d) (hword : word ∈ language dot g) : word ∈ language dot' g := by
  induction g generalizing word with
  | nil => exact hword
  | cons p g ih =>
    rw [language_cons, Language.mem_mul] at hword ⊢
    obtain ⟨u, hu, v, hv, rfl⟩ := hword
    rw [List.forall_mem_append] at h
    refine ⟨u, ?_, v, ih h.2 hv, rfl⟩
    cases p with
    | letter c => exact hu
    | one =>
      obtain ⟨d, rfl, hd⟩ := hu
      exact ⟨d, rfl, h.1 d (List.mem_singleton_self d) hd⟩
    | run => exact fun d hd => h.1 d hd (hu d hd)

end Glob

/-! ## The pattern of a glob -/

/-- The word that a dot matches is a character other than a line feed. -/
lemma Pattern.any_denotes : Denotes .any (GlobPart.language (· ≠ '\n') .one) := by
  have hdot (d : Char) : (CharSet.compl (.single '\n')).contains d.toNat = true ↔ d ≠ '\n' := by
    rw [CharSet.contains, Bool.not_eq_true', Bool.eq_false_iff, Ne, CharSet.contains_single,
      Char.toNat_inj]
  have hone := Denotes.one (.compl (.single '\n'))
  simp only [hdot] at hone
  exact hone

/-- Runs of characters are words of single ones. -/
lemma GlobPart.language_run (dot : Char → Prop) : language dot run = (language dot one)∗ := by
  ext word
  rw [Language.mem_kstar]
  constructor
  · intro h
    refine ⟨word.map fun d => [d], ?_, ?_⟩
    · rw [← List.flatMap_def, List.flatMap_singleton']
    · intro w hw
      obtain ⟨d, hd, rfl⟩ := List.mem_map.1 hw
      exact ⟨d, rfl, h d hd⟩
  · rintro ⟨words, rfl, h⟩ d hd
    obtain ⟨w, hw, hdw⟩ := List.mem_flatten.1 hd
    obtain ⟨e, rfl, he⟩ := h w hw
    obtain rfl := List.mem_singleton.1 hdw
    exact he

/-- The pattern of a part denotes its words, where places take all characters but line feeds. -/
theorem GlobPart.pattern_denotes (p : GlobPart) :
    p.pattern.Denotes (p.language (· ≠ '\n')) := by
  cases p with
  | letter c =>
    have hone := Pattern.Denotes.one (.anyCase (.single c))
    simp only [CharSet.contains_anyCase_single] at hone
    exact hone
  | one => exact Pattern.any_denotes
  | run =>
    rw [language_run]
    exact Pattern.any_denotes.star

/-- A sequence leads where its parts lead one after the other. -/
lemma Regex.leads_sequence (ps : List Part) (text : List Char) (i j : Nat) :
    Pattern.Leads text (sequence ps).pattern i j ↔
      Pattern.Leads text (Pattern.sequence (ps.map fun p => p.nested.pattern)) i j := by
  rw [sequence.eq_def]
  split
  · simp [Pattern.sequence, Pattern.Leads]
  · exact Iff.rfl
  · exact Iff.rfl

namespace Glob

/-- The pattern of a glob denotes its words, where places take all characters but line feeds. -/
theorem pattern_denotes (g : Glob) : g.pattern.Denotes (g.language (· ≠ '\n')) := by
  have hsequence : (Pattern.sequence (g.map GlobPart.pattern)).Denotes (g.language (· ≠ '\n')) := by
    induction g with
    | nil => exact .empty
    | cons p g ih => exact p.pattern_denotes.seq ih
  intro text i j
  rw [pattern, Regex.leads_sequence, List.map_map]
  exact hsequence text i j

/-- The automaton of a glob between looks for the start and the end of a text is small enough. -/
def Fits (g : Glob) : Prop := (Pattern.sequence [.look .start, g.pattern, .look .stop]).fits = true

end Glob

/-! ## The size of a glob -/

namespace Pattern

namespace Measure

/-- Sizes add up in a sequence. -/
lemma inSequence_seq (m n : Measure) : (m.seq n).inSequence = m.inSequence + n.inSequence := by
  rw [seq]
  split
  case isTrue h => exact h.symm
  case isFalse => rfl

/-- A sequence that stands alone has the sizes of both parts, and the anchors. -/
lemma alone_seq_le (m n : Measure) : (m.seq n).alone ≤ m.inSequence + n.inSequence + 32 := by
  rw [seq]
  split
  case isTrue h => exact Nat.le_add_left 32 _
  case isFalse => exact Nat.le_add_right _ 32

end Measure

/-- The size of a sequence is bounded by the sizes of its parts. -/
lemma inSequence_sequence_le {setSize : CharSet → Nat} {size : Nat} {ps : List Pattern}
    (h : ∀ p ∈ ps, (p.measure setSize).inSequence ≤ size) :
    ((sequence ps).measure setSize).inSequence ≤ ps.length * size := by
  induction ps with
  | nil => exact Nat.zero_le _
  | cons p ps ih =>
    rw [List.forall_mem_cons] at h
    have hcons : (sequence (p :: ps)).measure setSize =
        (p.measure setSize).seq ((sequence ps).measure setSize) := rfl
    rw [hcons, Measure.inSequence_seq, List.length_cons, Nat.succ_mul, Nat.add_comm]
    exact Nat.add_le_add (ih h.2) h.1

end Pattern

/-- The size of a sequence is that of the patterns of its parts. -/
lemma Regex.inSequence_sequence (setSize : CharSet → Nat) (ps : List Part) :
    ((sequence ps).pattern.measure setSize).inSequence =
      ((Pattern.sequence (ps.map fun p => p.nested.pattern)).measure setSize).inSequence := by
  rw [sequence.eq_def]
  split
  case h_1 p =>
    exact (Pattern.Measure.inSequence_seq (p.nested.pattern.measure setSize) .nothing).symm
  case h_2 => rfl
  case h_3 => rfl

namespace Glob

/-- Each part of a glob takes as much as a set of characters, and a run takes a loop besides. -/
lemma inSequence_pattern_le (g : Glob) :
    (g.pattern.measure fun _ => CharSet.automatonBound).inSequence ≤
      g.length * (CharSet.automatonBound + 40) := by
  have hpart (p : GlobPart) : (p.pattern.measure fun _ => CharSet.automatonBound).inSequence ≤
      CharSet.automatonBound + 40 := by
    cases p with
    | letter _ => exact Nat.le_add_right _ 40
    | one => exact Nat.le_add_right _ 40
    | run => exact Nat.le_refl _
  rw [pattern, Regex.inSequence_sequence, List.map_map]
  refine (Pattern.inSequence_sequence_le fun q hq => ?_).trans_eq (by rw [List.length_map])
  obtain ⟨p, -, rfl⟩ := List.mem_map.1 hq
  exact hpart p

/-- **Short globs fit.** A glob of few parts is small enough. -/
theorem fits_of_length_le {g : Glob} (h : g.length ≤ 79) : g.Fits := by
  have hglob := inSequence_pattern_le g
  have halone := Pattern.Measure.alone_seq_le (.ofSize 32)
    ((g.pattern.measure fun _ => CharSet.automatonBound).seq (.seq (.ofSize 32) .nothing))
  rw [Pattern.Measure.inSequence_seq, Pattern.Measure.inSequence_seq] at halone
  have hlimit : g.length * (CharSet.automatonBound + 40) ≤ 79 * (CharSet.automatonBound + 40) :=
    Nat.mul_le_mul_right _ h
  have hsize : ((Pattern.sequence [.look .start, g.pattern, .look .stop]).measure
      fun _ => CharSet.automatonBound).alone + 128 ≤ Pattern.sizeLimit := by
    refine (Nat.add_le_add_right halone 128).trans ?_
    simp only [CharSet.automatonBound, Pattern.sizeLimit, Pattern.Measure.ofSize,
      Pattern.Measure.nothing] at hglob hlimit ⊢
    omega
  rw [Fits, Pattern.fits, Bool.or_eq_true]
  exact .inl (decide_eq_true hsize)

end Glob

/-! ## Conditions -/

namespace Condition

section Compilation

variable [Environment]

/-- The regular expression of a glob is refused if it is too large. -/
lemma compileRegex_glob_of_not_fits {g : Glob} (h : ¬ g.Fits) :
    compileRegex g.regex = .error (invalidPattern g.regex) := by
  have hnone : Pattern.fullMatch? g.regex = none := by
    rw [Pattern.fullMatch?, Pattern.ofRegex?_glob]
    exact Option.filter_some_neg (Bool.eq_false_iff.2 h)
  rw [compileRegex, hnone]

/-- The regular expression of a glob matches values whose text is one of its words. -/
theorem compileRegex_glob_of_fits {g : Glob} (h : g.Fits) :
    ∃ test : List Value → Bool, compileRegex g.regex = .ok (fun vs => .ok (test vs)) ∧
      ∀ vs, test vs = true ↔
        ∃ v ∈ vs, v.isNull = false ∧ v.toText.toList ∈ g.language (· ≠ '\n') := by
  have hsome : Pattern.fullMatch? g.regex =
      some (Pattern.sequence [.look .start, g.pattern, .look .stop]) := by
    rw [Pattern.fullMatch?, Pattern.ofRegex?_glob]
    exact Option.filter_some_pos h
  refine ⟨_, by rw [compileRegex, hsome]; rfl, fun vs => ?_⟩
  simp only [List.any_eq_true, Value.matchesPattern, Bool.and_eq_true, Bool.not_eq_true',
    g.pattern_denotes.occursIn_anchored_iff]

end Compilation

/-- A text begins with another one, in any case, and places take what follows. -/
def Begins (text : String) (dot : Char → Prop) (cs : List Char) : Prop :=
  ∃ front back, cs = front ++ back ∧
    front.map simpleFold = text.toList.map simpleFold ∧ ∀ c ∈ back, dot c

/-- A word of a pattern is part of a text, and places take what stands around it. -/
def Includes (pattern : String) (dot : Char → Prop) (cs : List Char) : Prop :=
  ∃ front inner back, cs = front ++ inner ++ back ∧
    (∀ c ∈ front, dot c) ∧ inner ∈ (Glob.ofText pattern).language dot ∧ ∀ c ∈ back, dot c

/-- A phrase has its tokens with single blanks between them, in any case. -/
lemma mem_phraseGlob_iff (tokens : List String) (dot : Char → Prop) (cs : List Char) :
    cs ∈ (phraseGlob tokens).language dot ↔
      cs.map simpleFold = (" ".intercalate tokens).toList.map simpleFold := by
  rw [phraseGlob, Glob.literal, Glob.mem_language_letters, phraseText]

/-- A start is followed by anything. -/
lemma mem_startGlob_iff (text : String) (dot : Char → Prop) (cs : List Char) :
    cs ∈ (startGlob text).language dot ↔ Begins text dot cs := by
  rw [startGlob, Glob.language_append, Language.mem_mul]
  simp only [Glob.literal, Glob.mem_language_letters, Glob.mem_language_run]
  constructor
  · rintro ⟨front, hfront, back, hback, rfl⟩
    exact ⟨front, back, rfl, hfront, hback⟩
  · rintro ⟨front, back, rfl, hfront, hback⟩
    exact ⟨front, hfront, back, hback, rfl⟩

/-- A wildcard pattern has the texts that include it. -/
lemma mem_wildcardGlob_iff (pattern : String) (dot : Char → Prop) (cs : List Char) :
    cs ∈ (wildcardGlob pattern).language dot ↔ Includes pattern dot cs := by
  have hglob : wildcardGlob pattern = [.run] ++ Glob.ofText pattern ++ [.run] := rfl
  rw [hglob, Glob.language_append, Glob.language_append]
  simp only [Language.mem_mul, Glob.mem_language_run]
  constructor
  · rintro ⟨_, ⟨front, hfront, inner, hinner, rfl⟩, back, hback, rfl⟩
    exact ⟨front, inner, back, rfl, hfront, hinner, hback⟩
  · rintro ⟨front, inner, back, rfl, hfront, hinner, hback⟩
    exact ⟨_, ⟨front, hfront, inner, hinner, rfl⟩, back, hback, rfl⟩

end Condition

/-! ## Leaves -/

namespace Query

/-- A leaf looks for values whose text has a property. The property depends on the characters that
the places of a glob take, which are all but line feeds. -/
structure Seeks {R : Type} [Environment] (E : Evaluator R) (now : Instant) (field : String)
    (c : Condition) (g : Glob) (P : (Char → Prop) → List Char → Prop) : Prop where
  /-- If the glob is small enough, every record gets an answer, and it is matched if one of its
  values is not null and has a text with the property. -/
  accepted : g.Fits → ∃ p : R → Bool, (leaf field c).compile E now = .ok (fun r => .ok (p r)) ∧
    ∀ r, p r = true ↔ ∃ v ∈ E.extract r field, v.isNull = false ∧ P (· ≠ '\n') v.toText.toList
  /-- A glob that is too large is refused. -/
  refused : ¬ g.Fits → (leaf field c).compile E now = .error (Condition.invalidPattern g.regex)
  /-- What is found has the property also with places that take all characters. -/
  sound : ∀ cs, P (· ≠ '\n') cs → P (fun _ => True) cs
  /-- Among texts of one line, all that have the property with such places are found. -/
  complete : ∀ cs, '\n' ∉ cs → P (fun _ => True) cs → P (· ≠ '\n') cs

/-- A condition that hands over a glob looks for its words. -/
lemma seeks_of_compileRegex {R : Type} [Environment] (E : Evaluator R) {now : Instant}
    (field : String) {c : Condition} {g : Glob} {P : (Char → Prop) → List Char → Prop}
    (hc : c.compile now = Condition.compileRegex g.regex)
    (hP : ∀ dot cs, cs ∈ g.language dot ↔ P dot cs) : Seeks E now field c g P where
  accepted h := by
    obtain ⟨test, htest, hmatch⟩ := Condition.compileRegex_glob_of_fits h
    refine ⟨fun r => test (E.extract r field), by rw [compile, hc, htest], fun r => ?_⟩
    rw [hmatch]
    simp only [hP]
  refused h := by rw [compile, hc, Condition.compileRegex_glob_of_not_fits h]
  sound cs h := by
    rw [← hP] at h ⊢
    exact Glob.language_mono (fun _ _ _ => trivial) h
  complete cs hline h := by
    rw [← hP] at h ⊢
    refine Glob.language_mono (fun d hd _ => ?_) h
    rintro rfl
    exact hline hd

/-- A condition on the start of a text seeks its glob. -/
lemma seeks_of_startsWith {R : Type} [Environment] (E : Evaluator R) (now : Instant)
    (field text : String) :
    Seeks E now field (.startsWith text) (Condition.startGlob text) (Condition.Begins text) :=
  seeks_of_compileRegex E field rfl (Condition.mem_startGlob_iff text)

/-- **Starts and globs.** A leaf with a start looks for texts that begin with it, and one with a
glob other than a star for texts that include one of its words. Both are accepted if the text they
give has at most 77 characters, and as long as the automaton of their glob is small enough.

**Proof sketch.** The regular expression of a glob is read back as the pattern of its parts, which
denotes the words of the glob. The glob of a start ends with a run, and the glob of a pattern that
may occur anywhere stands between two of them. -/
theorem starts_and_globs_seek {R : Type} [Environment] (E : Evaluator R) (now : Instant)
    (field text : String) :
    Seeks E now field (.startsWith text) (Condition.startGlob text) (Condition.Begins text) ∧
    (text ≠ "*" →
      Seeks E now field (.wildcard text) (Condition.wildcardGlob text) (Condition.Includes text)) ∧
    (text.length ≤ 77 →
      (Condition.startGlob text).Fits ∧ (Condition.wildcardGlob text).Fits) := by
  refine ⟨?_, fun hstar => ?_, fun hlength => ⟨?_, ?_⟩⟩
  · exact seeks_of_startsWith E now field text
  · have hc : (Condition.wildcard text).compile now =
        Condition.compileRegex (Condition.wildcardGlob text).regex := by
      rw [Condition.compile, if_neg hstar]
    exact seeks_of_compileRegex E field hc (Condition.mem_wildcardGlob_iff text)
  · refine Glob.fits_of_length_le ?_
    simp only [Condition.startGlob, Glob.literal, List.length_append, List.length_map,
      String.length_toList, List.length_singleton]
    omega
  · refine Glob.fits_of_length_le ?_
    simp only [Condition.wildcardGlob, Glob.ofText, List.cons_append, List.length_cons,
      List.length_append, List.length_map, String.length_toList, List.length_nil]
    omega

section Examples

attribute [local instance] Environment.isolated

/-- A pattern of three letters, of which one may be any, is found in a name. -/
theorem letters_seek :
    let record : Json := .obj [("name", .str "abcde")]
    "B?D" ≠ "*" ∧ "B?D".length ≤ 77 ∧
      ∃ p : Json → Bool, (leaf "name" (.wildcard "B?D")).compile Evaluator.json Instant.earliest =
        .ok (fun r => .ok (p r)) ∧ p record = true := by
  intro record
  have hseek := starts_and_globs_seek Evaluator.json Instant.earliest "name" "B?D"
  obtain ⟨p, hp, hmatch⟩ := (hseek.2.1 (by decide)).accepted (hseek.2.2 (by decide)).2
  have hinner : ['b', 'c', 'd'] ∈ (Glob.ofText "B?D").language (· ≠ '\n') :=
    ⟨['b'], ⟨'b', rfl, by decide⟩, ['c', 'd'], ⟨['c'], ⟨'c', rfl, by decide⟩,
      ['d'], ⟨['d'], ⟨'d', rfl, by decide⟩, [], rfl, rfl⟩, rfl⟩, rfl⟩
  refine ⟨by decide, by decide, p, hp, (hmatch record).2 ⟨.str "abcde", ?_, rfl, ?_⟩⟩
  · exact List.mem_singleton_self _
  · exact ⟨['a'], ['b', 'c', 'd'], ['e'], rfl, by simp, hinner, by simp⟩

/-- A value of two lines that begins with a text is not found by it. -/
theorem start_misses_second_line :
    let record : Json := .obj [("name", .str "a\nb")]
    ∃ p : Json → Bool, (leaf "name" (.startsWith "a")).compile Evaluator.json Instant.earliest =
        .ok (fun r => .ok (p r)) ∧
      Evaluator.json.extract record "name" = [.str "a\nb"] ∧
      Condition.Begins "a" (fun _ => True) "a\nb".toList ∧ ¬ p record = true := by
  intro record
  have hseek := seeks_of_startsWith Evaluator.json Instant.earliest "name" "a"
  obtain ⟨p, hp, hmatch⟩ := hseek.accepted (Glob.fits_of_length_le (by decide))
  have hextract : Evaluator.json.extract record "name" = [.str "a\nb"] := rfl
  refine ⟨p, hp, hextract, ⟨['a'], ['\n', 'b'], rfl, rfl, fun _ _ => trivial⟩, fun h => ?_⟩
  obtain ⟨v, hv, -, front, back, htext, hfront, hback⟩ := (hmatch record).1 h
  obtain rfl := List.mem_singleton.1 (hextract ▸ hv)
  have hlength : front.length = 1 := by simpa using congrArg List.length hfront
  obtain ⟨c, rfl⟩ := List.length_eq_one_iff.1 hlength
  obtain ⟨-, rfl⟩ := List.cons.inj htext
  exact hback '\n' List.mem_cons_self rfl

end Examples

/-! ## Phrases -/

/-- What a leaf with a phrase looks for does not depend on the characters that places take. -/
lemma seeks_of_phrase {R : Type} [Environment] (E : Evaluator R) (now : Instant)
    (field : String) (tokens : List String) :
    Seeks E now field (.phrase tokens) (Condition.phraseGlob tokens)
      fun _ cs => cs.map simpleFold = (" ".intercalate tokens).toList.map simpleFold :=
  seeks_of_compileRegex E field rfl (Condition.mem_phraseGlob_iff tokens)

/-- **Phrases.** A leaf with a phrase is accepted as long as the automaton of its text is small
enough, whatever characters its tokens consist of. A record is matched if the text of one of its
values that are not null is the tokens with single blanks between them, where characters may differ
in case.

**Proof sketch.** The glob of a phrase has no places, so that its words are the texts with the same
foldings. -/
theorem phrase_matches_iff {R : Type} [Environment] (E : Evaluator R) (now : Instant)
    (field : String) {tokens : List String} (h : (Condition.phraseGlob tokens).Fits) :
    ∃ p : R → Bool, (leaf field (.phrase tokens)).compile E now = .ok (fun r => .ok (p r)) ∧
      ∀ r, p r = true ↔ ∃ v ∈ E.extract r field, v.isNull = false ∧
          v.toText.toList.map simpleFold = (" ".intercalate tokens).toList.map simpleFold :=
  (seeks_of_phrase E now field tokens).accepted h

section Examples

attribute [local instance] Environment.isolated

/-- A phrase of marks with a meaning in regular expressions, of nothing and of a line feed is found
where it stands in another case, and a dot in it is no place for another character. -/
theorem marks_match :
    let tokens := ["a.B(", "", "\n*"]
    let field : String → Json := fun s => .obj [("name", .str s)]
    (Condition.phraseGlob tokens).Fits ∧
      ∃ p : Json → Bool, (leaf "name" (.phrase tokens)).compile Evaluator.json Instant.earliest =
        .ok (fun r => .ok (p r)) ∧
        p (field "A.b(  \n*") = true ∧ p (field "axB(  \n*") = false := by
  intro tokens field
  have hfits : (Condition.phraseGlob tokens).Fits := Glob.fits_of_length_le (by decide)
  obtain ⟨p, hp, hmatch⟩ := phrase_matches_iff Evaluator.json Instant.earliest "name" hfits
  have hextract (s : String) : Evaluator.json.extract (field s) "name" = [.str s] := rfl
  refine ⟨hfits, p, hp, (hmatch _).2 ⟨.str "A.b(  \n*", ?_, rfl, by decide +kernel⟩, ?_⟩
  · exact hextract _ ▸ List.mem_singleton_self _
  · refine Bool.eq_false_iff.2 fun h => ?_
    obtain ⟨v, hv, -, htext⟩ := (hmatch _).1 h
    obtain rfl := List.mem_singleton.1 (hextract _ ▸ hv)
    revert htext
    decide +kernel

end Examples

end Query

end Sift
