import Sift.Aggregation.Encoding

/-!
# Search requests

A request asks for a page of the records that a query selects, either whole or as rows of columns,
in some order, and for aggregations of all of them.

## Main definitions

* `Sift.Field`: a column of the result.
* `Sift.SortKey`: a field to sort by.
* `Sift.SearchRequest`: requests.
-/

set_option autoImplicit false

namespace Sift

/-- A column of the result. -/
structure Field where
  /-- The path of the column in a record. -/
  name : Option String := none
  /-- An expression for stores that know expressions. -/
  expr : Option String := none
  /-- The heading. -/
  label : Option String := none
  /-- Settings for those who show the column. -/
  settings : Table Json := []
deriving Inhabited

/-- A direction of sorting. -/
inductive Direction where
  | ascending
  | descending
deriving DecidableEq, Repr, Inhabited

/-- A field to sort by. -/
structure SortKey where
  /-- The field. -/
  field : String
  /-- The direction. -/
  direction : Direction := .ascending
deriving DecidableEq, Repr, Inhabited

/-- A request for a page of records and for aggregations. -/
structure SearchRequest where
  /-- How many records come before the page. -/
  offset : Nat := 0
  /-- How many records the page holds at most. -/
  limit : Nat := 10
  /-- Which records are selected; all of them when absent. -/
  query : Option Query := none
  /-- The columns; whole records are wanted when there are none. -/
  fields : List Field := []
  /-- The name of a list of columns. -/
  fieldSet : Option String := none
  /-- The order, by the first key first. -/
  sorts : List SortKey := []
  /-- The aggregations. -/
  aggs : List Aggregation := []
  /-- Parameters, among them the time zone. -/
  params : Table Json := []
deriving Inhabited

namespace Field

/-- The path of a column: its name, or else its expression. -/
def path? (f : Field) : Option String := f.name.or f.expr

/-- The document of a column. -/
def toJson (f : Field) : Json :=
  .record [("name", f.name.map .str), ("expr", f.expr.map .str), ("label", f.label.map .str),
    ("settings", Json.ofNonemptyTable id f.settings)]

/-- The column of a document. -/
def ofJson? (x : Json) : Option Field :=
  (x.fields? ["name", "expr", "label", "settings"] 0).bind fun t =>
    match Json.optional "name" Json.text? t, Json.optional "expr" Json.text? t,
      Json.optional "label" Json.text? t,
      Json.defaulted "settings" [] (Json.table? Aggregation.any?) t with
    | some name, some expr, some label, some settings => some ⟨name, expr, label, settings⟩
    | _, _, _, _ => none

end Field

namespace Direction

/-- The name of a direction. -/
def name : Direction → String
  | ascending => "asc"
  | descending => "desc"

/-- The direction of a document. -/
def ofJson? (x : Json) : Option Direction :=
  match x.name? ["asc", "desc"] false with
  | some "asc" => some ascending
  | some "desc" => some descending
  | _ => none

end Direction

namespace SortKey

/-- The document of a sort key. -/
def toJson (s : SortKey) : Json :=
  .record [("field", some (.str s.field)), ("direction", some (.str s.direction.name))]

/-- The sort key of a document. -/
def ofJson? (x : Json) : Option SortKey :=
  (x.fields? ["field", "direction"] 0).bind fun t =>
    match Json.required "field" Json.text? t,
      Json.defaulted "direction" .ascending Direction.ofJson? t with
    | some f, some d => some ⟨f, d⟩
    | _, _ => none

end SortKey

namespace SearchRequest

/-- The time zone among the parameters. -/
def timeZone? (r : SearchRequest) : Option String :=
  (Table.find? "timeZone" r.params).bind Json.text?

/-- The document of a request. -/
def toJson (r : SearchRequest) : Json :=
  .record [("offset", some (.int r.offset)), ("limit", some (.int r.limit)),
    ("query", r.query.map Query.toJson), ("fields", Json.ofNonempty Field.toJson r.fields),
    ("field_set", r.fieldSet.map .str), ("sorts", Json.ofNonempty SortKey.toJson r.sorts),
    ("aggs", Json.ofNonempty Aggregation.toJson r.aggs),
    ("params", Json.ofNonemptyTable id r.params)]

/-- The names of the fields of a request, in their order. -/
def fieldNames : List String :=
  ["offset", "limit", "query", "fields", "field_set", "sorts", "aggs", "params"]

/-- The request among the fields of a record. -/
def ofFields? (t : Table Json) : Option SearchRequest :=
  match Json.defaulted "offset" 0 Json.nat? t, Json.defaulted "limit" 10 Json.nat? t,
    Json.optional "query" (Query.ofJson? false) t,
    Json.defaulted "fields" [] (Json.list? Field.ofJson?) t,
    Json.optional "field_set" Json.text? t,
    Json.defaulted "sorts" [] (Json.list? SortKey.ofJson?) t,
    Json.defaulted "aggs" [] (Json.list? Aggregation.ofJson?) t,
    Json.defaulted "params" [] (Json.table? Aggregation.any?) t with
  | some offset, some limit, some query, some fields, some fieldSet, some sorts, some aggs,
    some params => some ⟨offset, limit, query, fields, fieldSet, sorts, aggs, params⟩
  | _, _, _, _, _, _, _, _ => none

/-- The request of a document. -/
def ofJson? (x : Json) : Option SearchRequest := (x.fields? fieldNames 0).bind ofFields?

end SearchRequest

end Sift
