import Sift.Aggregation.ResultEncoding
import Sift.Search.Request

/-!
# Search results

## Main definitions

* `Sift.SearchResult`: a page of records, or of rows, with the number of all matches.
-/

set_option autoImplicit false

namespace Sift

/-- The answer to a request. -/
structure SearchResult (T : Type) where
  /-- The results of the aggregations. -/
  aggs : Table AggregationResult := []
  /-- The records of the page. -/
  items : Option (List T) := none
  /-- The rows of the page, where columns were asked for. -/
  rows : Option (List (List Value)) := none
  /-- How many records match. -/
  totalItems : Nat := 0
  /-- The columns of the rows. -/
  fields : List Field := []
deriving Inhabited

namespace SearchResult

variable {T : Type}

/-- The records of the page, none where there are only rows. -/
def itemsOrEmpty (r : SearchResult T) : List T := r.items.getD []

/-- The document of a result. -/
def toJson (encode : T → Json) (r : SearchResult T) : Json :=
  .record [("aggs", some (.obj (r.aggs.map fun e => (e.1, e.2.toJson)))),
    ("items", r.items.map fun items => .arr (items.map encode)),
    ("rows", r.rows.map fun rows => .arr (rows.map fun row => .arr (row.map Value.toJson))),
    ("total_items", some (.int r.totalItems)), ("fields", some (.arr (r.fields.map Field.toJson)))]

/-- The result of a document. -/
def ofJson? (read : Json → Option T) (x : Json) : Option (SearchResult T) :=
  (x.fields? ["aggs", "items", "rows", "total_items", "fields"] 0).bind fun t =>
    match Json.defaulted "aggs" [] (Json.table? AggregationResult.ofJson?) t,
      Json.optional "items" (Json.list? read) t,
      Json.optional "rows" (Json.list? (Json.list? Bucket.value?)) t,
      Json.required "total_items" Json.nat? t,
      Json.defaulted "fields" [] (Json.list? Field.ofJson?) t with
    | some aggs, some items, some rows, some total, some fields =>
      some ⟨aggs, items, rows, total, fields⟩
    | _, _, _, _, _ => none

end SearchResult

end Sift
