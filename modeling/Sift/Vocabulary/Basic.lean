import Sift.Search.Request

/-!
# Vocabularies

A vocabulary is what callers may say instead of the fields that records have: other names for
fields, names for lists of columns, and names for aggregations and queries.

## Main definitions

* `Sift.Vocabulary`: the tables of names.
* `Sift.Vocabulary.fieldName`: the field that a name stands for.
* `Sift.Vocabulary.toJson`, `Sift.Vocabulary.ofJson?`: a vocabulary as a document.
-/

set_option autoImplicit false

namespace Sift

/-- The names that callers may use. -/
structure Vocabulary where
  /-- Other names for fields. -/
  aliases : Table Field := []
  /-- Names for lists of columns. -/
  fieldSets : Table (List Field) := []
  /-- Names for aggregations. -/
  aggregations : Table Aggregation := []
  /-- Names for queries. -/
  queries : Table Query := []
deriving Inhabited

namespace Vocabulary

/-- The field that a name stands for, if its alias has a name, or else the name itself. -/
def fieldName (v : Vocabulary) (name : String) : String :=
  ((Table.find? name v.aliases).bind Field.name).getD name

/-- The document of a vocabulary. -/
def toJson (v : Vocabulary) : Json :=
  .obj [("aliases", .obj (v.aliases.map fun e => (e.1, e.2.toJson))),
    ("field_sets", .obj (v.fieldSets.map fun e => (e.1, .arr (e.2.map Field.toJson)))),
    ("named_aggs", .obj (v.aggregations.map fun e => (e.1, e.2.toJson))),
    ("named_queries", .obj (v.queries.map fun e => (e.1, e.2.toJson)))]

/-- The vocabulary of a document. -/
def ofJson? (x : Json) : Option Vocabulary :=
  (x.fields? ["aliases", "field_sets", "named_aggs", "named_queries"] 0).bind fun t =>
    match Json.defaulted "aliases" [] (Json.table? Field.ofJson?) t,
      Json.defaulted "field_sets" [] (Json.table? (Json.list? Field.ofJson?)) t,
      Json.defaulted "named_aggs" [] (Json.table? Aggregation.ofJson?) t,
      Json.defaulted "named_queries" [] (Json.table? (Query.ofJson? false)) t with
    | some aliases, some sets, some aggs, some queries => some ⟨aliases, sets, aggs, queries⟩
    | _, _, _, _ => none

end Vocabulary

end Sift
