import Sift.Query.Basic
import Sift.QueryText.Parser

/-!
# Substitution in queries

A function on leaves, texts and names puts other queries in their place; the connectives stay.
Renaming changes the fields of leaves and nothing else.

## Main definitions

* `Sift.Query.substitute`: puts queries in the place of everything but the connectives.
* `Sift.Query.expandTexts`: puts what they say in the place of texts.
* `Sift.Query.rename`: gives the fields of leaves other names.
-/

set_option autoImplicit false

namespace Sift.Query

mutual

/-- Puts queries in the place of everything but the connectives, from left to right, and stops at
the first failure. -/
def substitute (replace : Query → Except Error Query) : Query → Except Error Query
  | and of => (substituteAll replace of).map and
  | or of => (substituteAll replace of).map or
  | not of => (substituteAll replace of).map not
  | leaf f c => replace (leaf f c)
  | text s d => replace (text s d)
  | named n v => replace (named n v)
  | matchAll => replace matchAll

/-- Puts queries in the place of everything but the connectives in several queries. -/
def substituteAll (replace : Query → Except Error Query) : List Query → Except Error (List Query)
  | [] => .ok []
  | q :: rest =>
    match substitute replace q with
    | .error e => .error e
    | .ok q' =>
      match substituteAll replace rest with
      | .error e => .error e
      | .ok rest' => .ok (q' :: rest')

end

/-- What a text says; other queries stay. -/
def expandText : Query → Except Error Query
  | text s d => (ofText s d).mapError QueryTextError.toError
  | q => .ok q

/-- The query with what they say in the place of all texts. -/
def expandTexts (q : Query) : Except Error Query := q.substitute expandText

mutual

/-- The query with other names for the fields of its leaves. -/
def rename (f : String → String) : Query → Query
  | and of => and (renameAll f of)
  | or of => or (renameAll f of)
  | not of => not (renameAll f of)
  | leaf field c => leaf (f field) c
  | text s d => text s d
  | named n v => named n v
  | matchAll => matchAll

/-- Several queries with other names for the fields of their leaves. -/
def renameAll (f : String → String) : List Query → List Query
  | [] => []
  | q :: rest => rename f q :: renameAll f rest

end

/-- A list of queries is renamed one by one. -/
@[simp] theorem renameAll_eq_map (f : String → String) (qs : List Query) :
    renameAll f qs = qs.map (rename f) := by
  induction qs with
  | nil => rfl
  | cons q rest ih => simp [renameAll, ih]

end Sift.Query
