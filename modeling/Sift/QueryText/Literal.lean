import Sift.Number.Numeral
import Sift.Query.Basic
import Sift.QueryText.Token
import Sift.Text.Basic

/-!
# The meaning of clauses

The text of a plain value is a literal: a boolean, an integer or another number if it reads as
one, and a string otherwise. A clause becomes a leaf on its field, or on the default field where
it has none.

## Main definitions

* `Sift.Value.ofLiteral`: the value of a literal.
* `Sift.Clause.toQuery`: the query of a clause.
-/

set_option autoImplicit false

namespace Sift

/-- The value of a literal. Words without a digit are never numbers. -/
def Value.ofLiteral (s : String) : Value :=
  if s = "true" then .bool true
  else if s = "false" then .bool false
  else
    let cs := s.toList
    match Numeral.int64? cs with
    | some n => .long n
    | none =>
      match (Numeral.floating? cs : Option Double) with
      | some x => if cs.any Numeral.isDigit && x.isFinite then .double x else .str s
      | none => .str s

namespace Clause

/-- The bound of a range, where a star leaves it open. -/
def bound? (s : String) : Option Value := if s = "*" then none else some (Value.ofLiteral s)

/-- The bounds of a range. -/
def bounds (lower upper : String) (includeLower includeUpper : Bool) : Bounds where
  gte := if includeLower then bound? lower else none
  gt := if includeLower then none else bound? lower
  lte := if includeUpper then bound? upper else none
  lt := if includeUpper then none else bound? upper

/-- The condition that a plain value puts on a field: a pattern if it holds a wildcard. -/
def plainCondition (s : String) : Condition :=
  if s.toList.any fun c => c = '*' || c = '?' then .wildcard s else .term (Value.ofLiteral s)

/-- The condition that the value of a clause puts on a field. -/
def condition : ClauseValue → Condition
  | .plain s => plainCondition s
  | .quoted s => .phrase (Text.words s)
  | .regex p => .regex p
  | .range lower upper il iu => .range (bounds lower upper il iu)

/-- The field whose plain values name fields that have to exist. -/
def existence : String := "_exists_"

/-- The query of a clause. -/
def toQuery (defaultField : String) (c : Clause) : Query :=
  match c with
  | ⟨none, .plain s⟩ => if s = "*" then .matchAll else .leaf defaultField (plainCondition s)
  | ⟨some f, .plain s⟩ => if f = existence then .exists s else .leaf f (plainCondition s)
  | ⟨field, v⟩ => .leaf (field.getD defaultField) (condition v)

end Clause

end Sift
