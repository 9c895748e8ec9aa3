import Sift.Proofs.EnclosedExpressions
import Sift.Proofs.GlobMatches
import Sift.Proofs.PatternRuns

/-!
# Full matches of regular expressions

A leaf with a regular expression is to match values whose whole text the expression matches, in any
case, and it is to be refused if the expression is not valid. What is compiled is the expression in
a group between marks for the start and the end of a text, put together as texts. For most
expressions this is the same. It is not if a comment at the end of the expression takes the
parenthesis that closes the group, if there is no room left for the group, or if the expression is
not valid but becomes so since a parenthesis of its own closes the group.

## Main definitions

* `Sift.Pattern.alone?`: the pattern of an expression by itself.
* `Sift.Pattern.Spans`: a pattern matches a whole text.
* `Sift.Pattern.Interferes`: what stands around an expression changes what it means.
* `Sift.Query.IsFullMatch`: a leaf with an expression is a full match of the expression by itself.

## Main results

* `Sift.Pattern.fits_of_between`: an expression is no larger than what is compiled.
* `Sift.Pattern.fullMatch?_of_alone`, `Sift.Pattern.fullMatch?_isSome_iff_of_not_alone`: what is
  compiled for expressions that are valid, and which others are accepted.
* `Sift.Query.isFullMatch_iff`: which expressions are matched in full.
* `Sift.Query.split_group_matches`: one that is not.
-/

set_option autoImplicit false

namespace Sift

namespace Pattern

open Regex

/-! ## Expressions by themselves -/

/-- The pattern of a regular expression by itself, if it is valid: well formed, and not too
large. -/
def alone? (regex : String) : Option Pattern := (ofRegex? regex.toList).filter fits

/-- A pattern matches the whole of a text. -/
def Spans (p : Pattern) (text : List Char) : Prop := Leads text p 0 text.length

/-- A pattern between looks for the start and the end of a text. -/
def between (p : Pattern) : Pattern := sequence [.look .start, p, .look .stop]

variable {regex : String} {p : Pattern} {n : Nested}

/-- **An expression that stands alone** is read to its end, not nested too deeply and not too large.
-/
theorem alone?_eq_some_iff : alone? regex = some p ↔
    ∃ n, Reads regex.toList n [] ∧ n.depth ≤ maxDepth ∧ n.pattern = p ∧ p.fits = true := by
  rw [alone?, Option.filter_eq_some_iff, ofRegex?_eq_some_iff]
  constructor
  · rintro ⟨⟨n, hreads, hdepth, hp⟩, hfits⟩
    exact ⟨n, hreads, hdepth, hp, hfits⟩
  · rintro ⟨n, hreads, hdepth, hp, hfits⟩
    exact ⟨⟨n, hreads, hdepth, hp⟩, hfits⟩

/-! ## Room for the group -/

namespace Measure

/-- In a sequence only what needs no state of its own is smaller. -/
def Tight (m : Measure) : Prop := m.alone ≤ m.inSequence + 32

/-- A pattern of some size alone is tight. -/
lemma tight_ofSize (size : Nat) : (ofSize size).Tight := Nat.le_add_right size 32

/-- The empty pattern is tight. -/
lemma tight_nothing : nothing.Tight := Nat.le_refl 32

/-- Patterns one after the other are tight. -/
lemma tight_seq (m m' : Measure) : (m.seq m').Tight := by
  rw [seq]
  split
  · exact tight_nothing
  · exact tight_ofSize _

/-- A repetition of a tight pattern is tight. -/
lemma tight_again {m : Measure} (hm : m.Tight) (canBeEmpty : Bool) (least : Nat)
    (most : Option Nat) : (m.again canBeEmpty least most).Tight := by
  unfold again
  dsimp only
  split
  · split <;> exact tight_ofSize _
  · split
    · exact tight_nothing
    split
    · exact hm
    split
    · exact tight_ofSize _
    split <;> exact tight_ofSize _

end Measure

/-- All patterns are tight. -/
lemma tight_measure (setSize : CharSet → Nat) (p : Pattern) : (p.measure setSize).Tight := by
  induction p with
  | empty => exact Measure.tight_nothing
  | one | look | capture => exact Measure.tight_ofSize _
  | seq => exact Measure.tight_seq _ _
  | alt p q =>
    rw [measure]
    split <;> exact Nat.le_add_right _ 32
  | again p least most ih =>
    rw [measure]
    split
    · exact Measure.tight_again ih true _ _
    · exact Measure.tight_again ih _ least most

/-- Between looks an expression takes what it takes in a sequence, and two states for the looks. -/
lemma measure_between (setSize : CharSet → Nat) (p : Pattern) :
    (between p).measure setSize = .ofSize ((p.measure setSize).inSequence + 64) := by
  have hcons : (between p).measure setSize =
      (Measure.ofSize 32).seq ((p.measure setSize).seq ((Measure.ofSize 32).seq .nothing)) := rfl
  have hsize : (Measure.ofSize 32).inSequence +
      ((p.measure setSize).seq ((Measure.ofSize 32).seq .nothing)).inSequence =
        (p.measure setSize).inSequence + 64 := by
    rw [Measure.inSequence_seq, Measure.inSequence_seq]
    simp only [Measure.ofSize, Measure.nothing]
    omega
  rw [hcons, Measure.seq, hsize, if_neg (Nat.succ_ne_zero _)]

/-- An expression is no larger than it is between looks. -/
theorem fits_of_between (h : (between p).fits = true) : p.fits = true := by
  have hsize (setSize : CharSet → Nat) :
      (p.measure setSize).alone ≤ ((between p).measure setSize).alone := by
    rw [measure_between]
    exact (tight_measure setSize p).trans (Nat.add_le_add_left (by decide) _)
  unfold fits at h ⊢
  dsimp only at h ⊢
  rw [Bool.or_eq_true, decide_eq_true_eq, decide_eq_true_eq] at h ⊢
  exact h.imp (Nat.add_le_add_right (hsize _) _).trans (Nat.add_le_add_right (hsize _) _).trans

/-- There is room for a group around an expression, and for the marks around the group. -/
def HasRoom (n : Nested) : Prop := n.depth + 2 ≤ maxDepth ∧ (between n.pattern).fits = true

/-! ## Expressions between marks -/

/-- What stands around an expression when it is compiled changes what it means. -/
inductive Interferes (regex : String) : Prop
  /-- The expression is valid, but a comment in its last line takes the parenthesis behind it. -/
  | comment {n : Nested} (hvalid : (alone? regex).isSome = true)
      (hmark : Commented regex.toList) (hreads : Reads regex.toList n [])
      (htaken : Reads (regex.toList ++ [')']) n [])
  /-- The expression is valid, but there is no room for what stands around it. -/
  | room {n : Nested} (hvalid : (alone? regex).isSome = true) (hreads : Reads regex.toList n [])
      (hroom : ¬ HasRoom n)
  /-- The expression begins with one that a closing parenthesis follows, so that it is not valid.
  It goes on so that it is valid in a group, which this parenthesis closes. -/
  | parenthesis {n : Nested} {front back : List Char} (hregex : regex.toList = front ++ ')' :: back)
      (hfront : Reads (front ++ [')']) n [')']) (hgrouped : (fullMatch? regex).isSome = true)

/-- **An expression between anchors**, in terms of what was read in front of the second one. -/
theorem fullMatch?_eq_some_iff (h : Reads (regex.toList ++ [')', '$']) n [')', '$']) {q : Pattern} :
    fullMatch? regex = some q ↔ HasRoom n ∧ between n.pattern = q := by
  rw [fullMatch?, Option.filter_eq_some_iff, ofRegex?_anchored_of_reads h]
  unfold HasRoom
  split
  case isTrue hdepth =>
    constructor
    · rintro ⟨heq, hfits⟩
      obtain rfl := Option.some.inj heq
      exact ⟨⟨hdepth, hfits⟩, rfl⟩
    · rintro ⟨⟨-, hfits⟩, rfl⟩
      exact ⟨rfl, hfits⟩
  case isFalse hdepth =>
    constructor
    · rintro ⟨heq, -⟩
      cases heq
    · rintro ⟨⟨hdepth', -⟩, -⟩
      exact absurd hdepth' hdepth

/-- An expression is not valid if it begins with one that a closing parenthesis follows. -/
lemma not_reads_of_parenthesis {front back : List Char} {m : Nested}
    (hfront : Reads (front ++ [')']) m [')']) : ¬ Reads (front ++ ')' :: back) n [] := by
  intro hreads
  have hstops : Reads (front ++ ')' :: back) m (')' :: back) :=
    Reads.exchange (v := []) hfront (.replaced [] back)
  cases (hreads.unique hstops).2

/-- A valid expression is compiled to its pattern between looks, unless what stands around it
interferes. -/
theorem fullMatch?_of_alone (h : alone? regex = some p) (hfree : ¬ Interferes regex) :
    fullMatch? regex = some (between p) := by
  obtain ⟨n, hreads, hdepth, rfl, hfits⟩ := alone?_eq_some_iff.1 h
  have hvalid : (alone? regex).isSome = true := by rw [h]; rfl
  have hclosed : Reads (regex.toList ++ [')']) n [')'] := by
    rcases hreads.close with hclosed | ⟨htaken, hmark⟩
    · exact hclosed
    · exact absurd (.comment hvalid hmark hreads htaken) hfree
  have hanchored := Reads.exchange (v := []) hclosed (.replaced [] ['$'])
  refine (fullMatch?_eq_some_iff hanchored).2 ⟨?_, rfl⟩
  by_contra hroom
  exact hfree (.room hvalid hreads hroom)

/-- A valid expression is refused if what stands around it interferes. -/
lemma fullMatch?_of_interferes (h : alone? regex = some p) (hinterferes : Interferes regex) :
    fullMatch? regex = none := by
  obtain ⟨n, hreads, -, -, -⟩ := alone?_eq_some_iff.1 h
  refine Option.eq_none_iff_forall_ne_some.2 fun q hq => ?_
  rcases reads_of_anchored (Option.filter_eq_some_iff.1 hq).1 with
    ⟨m, hm, hanchored⟩ | ⟨front, back, m, hregex, hfront⟩
  · cases hinterferes with
    | @comment m' _ _ _ htaken =>
      have hstops : Reads (regex.toList ++ [')']) m [')'] :=
        Reads.exchange (v := []) hanchored (.replaced ['$'] [])
      cases (htaken.unique hstops).2
    | @room m' _ hreads' hroom =>
      obtain ⟨rfl, -⟩ := hm.unique hreads'
      exact hroom ((fullMatch?_eq_some_iff hanchored).1 hq).1
    | parenthesis hregex hfront _ =>
      rw [hregex] at hreads
      exact not_reads_of_parenthesis hfront hreads
  · rw [hregex] at hreads
    exact not_reads_of_parenthesis hfront hreads

/-- The comment takes the parenthesis that should close the group. -/
example : (alone? "(?x)a #b").isSome = true ∧ (fullMatch? "(?x)a #b").isNone = true := by
  decide +kernel

/-- An expression that is not valid is accepted only if a parenthesis of its own closes the
group. -/
theorem fullMatch?_isSome_iff_of_not_alone (h : alone? regex = none) :
    (fullMatch? regex).isSome = true ↔ Interferes regex := by
  constructor
  · intro hsome
    obtain ⟨q, hq⟩ := Option.isSome_iff_exists.1 hsome
    rcases reads_of_anchored (Option.filter_eq_some_iff.1 hq).1 with
      ⟨n, hreads, hanchored⟩ | ⟨front, back, n, hregex, hfront⟩
    · -- What has room between the marks has room alone.
      obtain ⟨⟨hdepth, hfits⟩, -⟩ := (fullMatch?_eq_some_iff hanchored).1 hq
      have halone : alone? regex = some n.pattern := alone?_eq_some_iff.2
        ⟨n, hreads, (Nat.le_add_right _ 2).trans hdepth, rfl, fits_of_between hfits⟩
      rw [halone] at h
      cases h
    · exact .parenthesis hregex hfront hsome
  · intro hinterferes
    cases hinterferes with
    | comment hvalid | room hvalid =>
      rw [h] at hvalid
      cases hvalid
    | parenthesis _ _ hgrouped => exact hgrouped

end Pattern

/-! ## Leaves with expressions -/

namespace Query

section Leaves

variable {R : Type} [Environment]

/-- A leaf with an expression is a full match of it: it is accepted if the expression is valid by
itself, and then every record gets an answer: it is matched if the expression matches the whole text
of a value that is not null. -/
structure IsFullMatch (E : Evaluator R) (now : Instant) (field regex : String) : Prop where
  accepted_iff : (∃ test, (leaf field (.regex regex)).compile E now = .ok test) ↔
    (Pattern.alone? regex).isSome = true
  matches_iff : ∀ {test p}, (leaf field (.regex regex)).compile E now = .ok test →
    Pattern.alone? regex = some p → ∀ r, ∃ answer, test r = .ok answer ∧ (answer = true ↔
      ∃ v ∈ E.extract r field, v.isNull = false ∧ p.Spans v.toText.toList)

/-- A leaf with an expression is accepted if the expression is valid between its marks. -/
lemma compile_regex_eq_ok_iff (E : Evaluator R) (now : Instant) (field regex : String)
    {test : R → Except Error Bool} : (leaf field (.regex regex)).compile E now = .ok test ↔
      ∃ p, Pattern.fullMatch? regex = some p ∧
        (fun r => .ok ((E.extract r field).any (Value.matchesPattern p))) = test := by
  rw [compile, Condition.compile, Condition.compileRegex]
  cases Pattern.fullMatch? regex with
  | none => simp
  | some p => simp [Condition.someValue]

/-- Whether a leaf with an expression is accepted depends on the expression alone. -/
lemma exists_compile_regex_iff (E : Evaluator R) (now : Instant) (field regex : String) :
    (∃ test, (leaf field (.regex regex)).compile E now = .ok test) ↔
      (Pattern.fullMatch? regex).isSome = true := by
  simp only [compile_regex_eq_ok_iff, Option.isSome_iff_exists]
  constructor
  · rintro ⟨_, p, hp, -⟩
    exact ⟨p, hp⟩
  · rintro ⟨p, hp⟩
    exact ⟨_, p, hp, rfl⟩

/-- **Full matches.** A leaf with an expression is a full match of it unless what stands around the
expression interferes: a comment takes the parenthesis behind it, there is no room for a group
around it, or a parenthesis of its own closes the group.

**Proof sketch.** A text and the same text with a closing parenthesis behind it are read step by
step alike, up to the parenthesis. There the reader stops, if a comment has not taken it, with what
it has read of the text alone. Conversely, what is valid between the marks is read up to a closing
parenthesis. If this is the one behind the expression, the expression is valid by itself, since it
has no more groups and is no larger than what it is a part of. -/
theorem isFullMatch_iff (E : Evaluator R) (now : Instant) (field regex : String) :
    IsFullMatch E now field regex ↔ ¬ Pattern.Interferes regex := by
  constructor
  · intro hfull hinterferes
    have haccepted := (exists_compile_regex_iff E now field regex).symm.trans hfull.accepted_iff
    cases halone : Pattern.alone? regex with
    | some p =>
      rw [Pattern.fullMatch?_of_interferes halone hinterferes, halone] at haccepted
      cases haccepted.2 rfl
    | none =>
      have hsome := (Pattern.fullMatch?_isSome_iff_of_not_alone halone).2 hinterferes
      rw [halone] at haccepted
      cases haccepted.1 hsome
  · intro hfree
    constructor
    · rw [exists_compile_regex_iff]
      cases halone : Pattern.alone? regex with
      | some p => rw [Pattern.fullMatch?_of_alone halone hfree]; rfl
      | none =>
        rw [Pattern.fullMatch?_isSome_iff_of_not_alone halone]
        exact ⟨fun h => absurd h hfree, nofun⟩
    · intro test p htest halone r
      obtain ⟨q, hq, rfl⟩ := (compile_regex_eq_ok_iff E now field regex).1 htest
      rw [Pattern.fullMatch?_of_alone halone hfree] at hq
      obtain rfl := Option.some.inj hq
      refine ⟨_, rfl, ?_⟩
      simp only [List.any_eq_true, Value.matchesPattern, Bool.and_eq_true, Bool.not_eq_true',
        Pattern.between, Pattern.occursIn_anchored, Pattern.Spans]

end Leaves

section Examples

attribute [local instance] Environment.isolated

/-- An expression with a parenthesis that closes the group is not refused, and matches texts of
which only one end is looked at. -/
theorem split_group_matches :
    let record : Json := .obj [("name", .str "ax")]
    Pattern.alone? "a)|(b" = none ∧
      ∃ test, (leaf "name" (.regex "a)|(b")).compile Evaluator.json Instant.earliest = .ok test ∧
        test record = .ok true := by
  intro record
  have hoccurs : (Pattern.fullMatch? "a)|(b").any (·.occursIn "ax") = true := by decide +kernel
  obtain ⟨p, hp, hp_occurs⟩ := (Option.any_eq_true _ _).1 hoccurs
  have htest := (compile_regex_eq_ok_iff Evaluator.json Instant.earliest "name" _).2 ⟨p, hp, rfl⟩
  refine ⟨by decide +kernel, _, htest, congrArg Except.ok ?_⟩
  exact List.any_eq_true.2 ⟨.str "ax", List.mem_singleton_self _, hp_occurs⟩

end Examples

end Query

end Sift
