import Sift.Aggregation.Renaming
import Sift.Vocabulary.Basic
import Sift.Vocabulary.NameError

/-!
# Aggregations by name

A named aggregation is replaced by the aggregation that its name is defined as. It keeps its own
key, adds its own aggregations and settings to those of the definition, and its least count takes
the place of that of the definition. The aggregations inside the result are then expanded in turn,
those of the definition included.

A definition may contain names, so that definitions are nested; the expansion of one that contains
its own name has no end, and no outcome. The depth of nesting is therefore a parameter of the
expansion, and as many levels as there are definitions are enough for every aggregation whose
expansion has an end.

## Main definitions

* `Sift.Vocabulary.expandWithin`: the expansion with a given depth of nesting.
* `Sift.Vocabulary.expandAggregation`: the expansion.
-/

set_option autoImplicit false

namespace Sift

namespace Aggregation

/-- The aggregation that takes the place of a named one: the definition with the key, the settings
and the least count of the named one, and with the given aggregations inside. -/
def merge (definition : Aggregation) (key : String) (extensions : Table Json)
    (least : Option Nat) (aggs : List Aggregation) : Aggregation where
  key := key
  kind := definition.kind
  aggs := aggs
  extensions := Table.union definition.extensions extensions
  minDocCount := least.or definition.minDocCount

mutual

/-- Expands an aggregation. The function `inherited` gives the expanded aggregations inside a
definition. -/
def expand (definitions : Table Aggregation)
    (inherited : String → Except NameError (List Aggregation)) :
    Aggregation → Except NameError Aggregation
  | ⟨key, .named name, aggs, extensions, least⟩ =>
    match Table.find? name definitions with
    | none => .error (.unknown name)
    | some d =>
      match inherited name with
      | .error e => .error e
      | .ok before =>
        match expandAll definitions inherited aggs with
        | .error e => .error e
        | .ok after => .ok (d.merge key extensions least (before ++ after))
  | ⟨key, kind, aggs, extensions, least⟩ =>
    match expandAll definitions inherited aggs with
    | .error e => .error e
    | .ok aggs => .ok ⟨key, kind, aggs, extensions, least⟩

/-- Expands several aggregations in their order and stops at the first failure. -/
def expandAll (definitions : Table Aggregation)
    (inherited : String → Except NameError (List Aggregation)) :
    List Aggregation → Except NameError (List Aggregation)
  | [] => .ok []
  | a :: rest =>
    match expand definitions inherited a with
    | .error e => .error e
    | .ok a =>
      match expandAll definitions inherited rest with
      | .error e => .error e
      | .ok rest => .ok (a :: rest)

end

end Aggregation

namespace Vocabulary

/-- The expanded aggregations inside the definition of a name, where definitions may be nested to
the given depth. -/
def inherited (v : Vocabulary) : Nat → String → Except NameError (List Aggregation)
  | 0, name => .error (.endless name)
  | depth + 1, name =>
    match Table.find? name v.aggregations with
    | some d => Aggregation.expandAll v.aggregations (v.inherited depth) d.aggs
    | none => .error (.unknown name)

/-- The expansion of an aggregation, where definitions may be nested to the given depth. -/
def expandWithin (v : Vocabulary) (depth : Nat) (a : Aggregation) :
    Except NameError Aggregation :=
  a.expand v.aggregations (v.inherited depth)

/-- The expansion of an aggregation. -/
def expandAggregation (v : Vocabulary) (a : Aggregation) : Except Error Aggregation :=
  (v.expandWithin v.aggregations.length a).mapError NameError.toError

/-- The aggregation that a caller means, in the fields of the records. -/
def aggregation (v : Vocabulary) (a : Aggregation) : Except Error Aggregation :=
  v.expandAggregation (a.rename v.fieldName)

/-- The aggregations that a caller means, in the fields of the records. -/
def aggregationsOf (v : Vocabulary) (as : List Aggregation) : Except Error (List Aggregation) :=
  as.mapM v.aggregation

end Vocabulary

end Sift
