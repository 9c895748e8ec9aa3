import Sift.Value.Basic

/-!
# Queries

A query selects records. Its leaves put a condition on the values of one field; they are joined
by the boolean connectives. Two further leaves stand for queries that have to be put in their
place before a query can be executed: a text in the query language, and a name.

## Main definitions

* `Sift.Bounds`: the bounds of a range.
* `Sift.Condition`: what a leaf asks of the values of its field.
* `Sift.Query`: queries.
-/

set_option autoImplicit false

namespace Sift

/-- The bounds of a range; an absent bound does not restrict. -/
structure Bounds where
  /-- What values lie below. -/
  lt : Option Value := none
  /-- What values do not exceed. -/
  lte : Option Value := none
  /-- What values lie above. -/
  gt : Option Value := none
  /-- What values reach. -/
  gte : Option Value := none
deriving Inhabited

/-- What a leaf asks of the values of its field, of which at least one has to comply. -/
inductive Condition where
  /-- The value equals a literal. -/
  | term (literal : Value)
  /-- The value equals one of several literals. -/
  | terms (literals : List Value)
  /-- The text of the value is the tokens joined by single blanks, in any case. -/
  | phrase (tokens : List String)
  /-- The text of the value starts with a text, in any case. -/
  | startsWith (text : String)
  /-- A glob pattern occurs in the text of the value, in any case; a lone star asks only that
  there is a value. -/
  | wildcard (pattern : String)
  /-- A regular expression matches the whole text of the value, in any case. -/
  | regex (pattern : String)
  /-- The value lies within bounds. -/
  | range (bounds : Bounds)
  /-- The value is an instant within bounds that are date expressions. -/
  | dateRange (bounds : Bounds) (timeZone : Option String)
deriving Inhabited

/-- A filter on records. -/
inductive Query where
  /-- All parts match. -/
  | and (of : List Query)
  /-- At least one part matches. -/
  | or (of : List Query)
  /-- No part matches. -/
  | not (of : List Query)
  /-- A value of the field meets the condition. -/
  | leaf (field : String) (condition : Condition)
  /-- What a text in the query language says, with a field for its clauses without one. -/
  | text (text : String) (defaultField : Option String)
  /-- What a name stands for: a query, or a bucket of an aggregation. -/
  | named (name : String) (value : Value)
  /-- Every record matches. -/
  | matchAll
deriving Inhabited

namespace Condition

/-- The kind of leaf that has the condition. -/
def kind : Condition → String
  | term _ => "term"
  | terms _ => "terms"
  | phrase _ => "phrase"
  | startsWith _ => "prefix"
  | wildcard _ => "wildcard"
  | regex _ => "regex"
  | range _ => "range"
  | dateRange _ _ => "date_range"

end Condition

namespace Query

/-- Asks for a value of the field. -/
def «exists» (field : String) : Query := leaf field (.wildcard "*")

/-- The kind of a query. -/
def kind : Query → String
  | and _ => "and"
  | or _ => "or"
  | not _ => "not"
  | leaf _ c => c.kind
  | text _ _ => "lucene"
  | named _ _ => "named"
  | matchAll => "match_all"

/-- The field of a leaf. -/
def field? : Query → Option String
  | leaf f _ => some f
  | _ => none

end Query

end Sift
