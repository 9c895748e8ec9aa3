import Sift.Proofs.Grammar
import Sift.Proofs.Leaves

/-!
# The leaves that a query text says

Operators and parentheses decide how the clauses of a query text are joined, and nothing else: the
leaves of its query are those of its clauses, in the order in which they are written.

## Main definitions

* `Sift.Token.leaves`: the leaf of a clause, and none for any other token.

## Main results

* `Sift.QueryText.Disjunction.leaves_query`: the leaves of a derivation are those of its tokens.
* `Sift.Query.leaves_ofText`: the leaves of a query text.
-/

set_option autoImplicit false

namespace Sift

/-- A clause is a leaf of its own. -/
lemma Clause.leaves_toQuery (defaultField : String) (c : Clause) :
    (c.toQuery defaultField).leaves = [c.toQuery defaultField] := by
  obtain ⟨field, value⟩ := c
  cases field with
  | none =>
    cases value with
    | plain s =>
      by_cases h : s = "*"
      · simp [toQuery, h, Query.leaves]
      · simp [toQuery, h, Query.leaves]
    | quoted _ | regex _ | range _ _ _ _ => rfl
  | some f =>
    cases value with
    | plain s =>
      by_cases h : f = existence
      · simp [toQuery, h, Query.leaves, Query.exists]
      · simp [toQuery, h, Query.leaves]
    | quoted _ | regex _ | range _ _ _ _ => rfl

/-- What a token asks for: a clause for its leaf, and any other token for nothing. -/
def Token.leaves (defaultField : String) : Token → List Query
  | clause c => [c.toQuery defaultField]
  | _ => []

namespace QueryText

variable (defaultField : String)

/-- Operators have no leaves. -/
lemma leaves_operator (w : Bool) :
    (operator w).flatMap (Token.leaves defaultField) = [] := by
  cases w <;> rfl

mutual

/-- **The leaves of a derivation** are those of its tokens.

**Proof sketch.** Induction on the derivation, together with the statements for the queries of the
parts: the tokens between two parts have no leaves. -/
theorem Operand.leaves_query : ∀ n : Operand,
    (n.query defaultField).leaves = n.tokens.flatMap (Token.leaves defaultField)
  | .clause c => by simp [Operand.query, Operand.tokens, Token.leaves, c.leaves_toQuery]
  | .not n => by simp [Operand.query, Operand.tokens, Token.leaves, Query.leaves, n.leaves_query]
  | .group d => by simp [Operand.query, Operand.tokens, Token.leaves, d.leaves_query]

/-- The query of a conjunction has the leaves of its tokens. -/
theorem Conjunction.leaves_query : ∀ c : Conjunction,
    (c.query defaultField).leaves = c.tokens.flatMap (Token.leaves defaultField)
  | .last n => n.leaves_query
  | .and n w rest => by
    simp [Conjunction.query, Conjunction.tokens, Query.leaves, n.leaves_query,
      leaves_operator, rest.leaves_queries]

/-- The parts of a conjunction have the leaves of its tokens. -/
lemma Conjunction.leaves_queries : ∀ c : Conjunction,
    (c.queries defaultField).flatMap Query.leaves = c.tokens.flatMap (Token.leaves defaultField)
  | .last n => by simp [Conjunction.queries, Conjunction.tokens, n.leaves_query]
  | .and n w rest => by
    simp [Conjunction.queries, Conjunction.tokens, n.leaves_query, leaves_operator,
      rest.leaves_queries]

/-- The query of a disjunction has the leaves of its tokens. -/
theorem Disjunction.leaves_query : ∀ d : Disjunction,
    (d.query defaultField).leaves = d.tokens.flatMap (Token.leaves defaultField)
  | .last c => c.leaves_query
  | .or c rest => by
    simp [Disjunction.query, Disjunction.tokens, Query.leaves, Token.leaves, c.leaves_query,
      rest.leaves_queries]

/-- The parts of a disjunction have the leaves of its tokens. -/
lemma Disjunction.leaves_queries : ∀ d : Disjunction,
    (d.queries defaultField).flatMap Query.leaves = d.tokens.flatMap (Token.leaves defaultField)
  | .last c => by simp [Disjunction.queries, Disjunction.tokens, c.leaves_query]
  | .or c rest => by
    simp [Disjunction.queries, Disjunction.tokens, Token.leaves, c.leaves_query,
      rest.leaves_queries]

end

end QueryText

/-- The leaves of a query text are those of the clauses in it, in their order. -/
theorem Query.leaves_ofText {text : String} {defaultField : Option String} {q : Query}
    (h : ofText text defaultField = .ok q) :
    q.leaves = (Token.scan (Text.trim text)).1.flatMap
      (Token.leaves (defaultField.getD anyField)) := by
  unfold ofText at h
  dsimp only at h
  split at h
  · cases h
  · split at h
    · rename_i tokens hscan
      obtain ⟨d, rfl, -, rfl⟩ := ofTokens_eq_ok_iff.1 h
      rw [hscan]
      exact d.leaves_query _
    · cases h

end Sift
