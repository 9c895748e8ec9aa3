import Sift.QueryText.Error
import Sift.QueryText.Lexer
import Sift.QueryText.Literal

/-!
# Reading query texts

Negation binds tightest, then conjunction, which may be written without an operator, then
disjunction. Groups and negations may lie in one another up to a limit.

## Main definitions

* `Sift.QueryText.negation`: one operand of a conjunction, within a limit of depth.
* `Sift.QueryText.disjunction`: a whole query, from a reader of operands.
* `Sift.Query.ofTokens`: the query of a list of tokens.
* `Sift.Query.ofText`: the query of a text.
-/

set_option autoImplicit false

namespace Sift

namespace QueryText

/-- Reads a query from the front of a list of tokens and returns what follows it. -/
abbrev Reader := List Token → Except QueryTextError (Query × List Token)

/-- How deep groups and negations may lie in one another. -/
def maxNesting : Nat := 64

/-- A single query as it is, several ones joined. -/
def join (combine : List Query → Query) : List Query → Query
  | [q] => q
  | qs => combine qs

/-- The operands of a conjunction after the first one. Each takes at least one token, so that the
number of tokens bounds their number. -/
def conjuncts (operand : Reader) :
    Nat → List Token → Except QueryTextError (List Query × List Token)
  | 0, ts => .ok ([], ts)
  | fuel + 1, ts =>
    let more (ts : List Token) : Except QueryTextError (List Query × List Token) :=
      match operand ts with
      | .error e => .error e
      | .ok (q, ts) =>
        match conjuncts operand fuel ts with
        | .error e => .error e
        | .ok (qs, ts) => .ok (q :: qs, ts)
    match ts with
    | .and :: ts => more ts
    | .not :: _ | .opening :: _ | .clause _ :: _ => more ts
    | _ => .ok ([], ts)

/-- Operands with or without an operator between them. -/
def conjunction (operand : Reader) : Reader := fun ts =>
  match operand ts with
  | .error e => .error e
  | .ok (q, ts) =>
    match conjuncts operand ts.length ts with
    | .error e => .error e
    | .ok (qs, ts) => .ok (join .and (q :: qs), ts)

/-- The conjunctions of a disjunction after the first one. -/
def disjuncts (operand : Reader) :
    Nat → List Token → Except QueryTextError (List Query × List Token)
  | 0, ts => .ok ([], ts)
  | fuel + 1, ts =>
    match ts with
    | .or :: ts =>
      match conjunction operand ts with
      | .error e => .error e
      | .ok (q, ts) =>
        match disjuncts operand fuel ts with
        | .error e => .error e
        | .ok (qs, ts) => .ok (q :: qs, ts)
    | _ => .ok ([], ts)

/-- Conjunctions with an operator between them. -/
def disjunction (operand : Reader) : Reader := fun ts =>
  match conjunction operand ts with
  | .error e => .error e
  | .ok (q, ts) =>
    match disjuncts operand ts.length ts with
    | .error e => .error e
    | .ok (qs, ts) => .ok (join .or (q :: qs), ts)

/-- A clause, a group or the negation of one of them, with as many groups and negations around one
another as the first argument allows. -/
def negation (defaultField : String) : Nat → Reader
  | 0, ts =>
    match ts with
    | .clause c :: ts => .ok (c.toQuery defaultField, ts)
    | .not :: _ | .opening :: _ => .error (.tooDeep maxNesting)
    | t :: _ => .error (.unexpected t)
    | [] => .error .unfinished
  | depth + 1, ts =>
    match ts with
    | .clause c :: ts => .ok (c.toQuery defaultField, ts)
    | .not :: ts =>
      match negation defaultField depth ts with
      | .error e => .error e
      | .ok (q, ts) => .ok (.not [q], ts)
    | .opening :: ts =>
      match disjunction (negation defaultField depth) ts with
      | .error e => .error e
      | .ok (q, .closing :: ts) => .ok (q, ts)
      | .ok _ => .error .unbalanced
    | t :: _ => .error (.unexpected t)
    | [] => .error .unfinished

end QueryText

namespace Query

/-- The field of clauses that name none, unless the caller names another one. -/
def anyField : String := "_all"

/-- The query of a list of tokens, and what follows it. -/
def readTokens (defaultField : String) : QueryText.Reader :=
  QueryText.disjunction (QueryText.negation defaultField QueryText.maxNesting)

/-- The query of a list of tokens that come from a text. -/
def ofTokens (defaultField text : String) (tokens : List Token) : Except QueryTextError Query :=
  match readTokens defaultField tokens with
  | .error e => .error e
  | .ok (q, []) => .ok q
  | .ok (_, t :: _) => .error (.trailing t text)

/-- The query of a text. -/
def ofText (text : String) (defaultField : Option String) : Except QueryTextError Query :=
  let trimmed := Text.trim text
  if trimmed.isEmpty then .error .empty
  else
    match Token.scan trimmed with
    | (tokens, []) => ofTokens (defaultField.getD anyField) trimmed tokens
    | (_, rest) => .error (.unreadable (String.ofList rest) trimmed)

end Query

end Sift
