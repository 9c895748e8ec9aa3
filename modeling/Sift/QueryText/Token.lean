/-!
# Tokens of query texts

A query text is a sequence of clauses, joined by operators and grouped by parentheses. A clause
asks for a value, of a field if it names one.

## Main definitions

* `Sift.Clause`: clauses and the forms of their values.
* `Sift.Token`: tokens.
-/

set_option autoImplicit false

namespace Sift

/-- What a clause asks for, as it is written. -/
inductive ClauseValue where
  /-- A run of characters. -/
  | plain (text : String)
  /-- A text in quotes. -/
  | quoted (text : String)
  /-- A pattern between slashes. -/
  | regex (pattern : String)
  /-- Two bounds in brackets, or in braces where a bound itself is left out. -/
  | range (lower upper : String) (includeLower includeUpper : Bool)
deriving DecidableEq, Repr

/-- A value with the name of its field, where one is given. -/
structure Clause where
  /-- The field before the colon. -/
  field : Option String
  /-- The value. -/
  value : ClauseValue
deriving DecidableEq, Repr

/-- A part of a query text. -/
inductive Token where
  | and
  | or
  | not
  | opening
  | closing
  | clause (clause : Clause)
deriving DecidableEq, Repr

namespace Token

/-- The name of a token in messages. -/
def label : Token → String
  | and => "And"
  | or => "Or"
  | not => "Not"
  | opening => "LParen"
  | closing => "RParen"
  | clause _ => "Clause"

end Token

end Sift
