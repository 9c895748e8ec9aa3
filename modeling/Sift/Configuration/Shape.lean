import Sift.Aggregation.Encoding

/-!
# The shapes of configurations

What a part of a configuration says depends on what is wanted there: a text where a name is wanted
may be a number elsewhere, and an empty place may be an empty list. A shape tells what is wanted.

## Main definitions

* `Sift.Shape`: shapes.
* `Sift.Shape.configuration`, `Sift.Shape.vocabulary`: the shapes of whole texts.
* `Sift.Shape.queryFields`, `Sift.Shape.kindFields`: the fields of the kinds of queries and
  aggregations.
-/

set_option autoImplicit false

namespace Sift

/-- What is wanted in a part of a configuration. -/
inductive Shape where
  /-- Anything. -/
  | any
  /-- A text. -/
  | text
  /-- A text that may be absent. -/
  | optionalText
  /-- A natural number of 64 bits that may be absent. -/
  | optionalCount
  /-- One of several names. -/
  | name (names : List String)
  /-- A list. -/
  | list (item : Shape)
  /-- A table with keys of any name. -/
  | table (value : Shape)
  /-- A table of fields, or a list of their values. -/
  | record (fields : List (String × Shape))
  /-- A query. -/
  | query
  /-- An aggregation. -/
  | aggregation

namespace Shape

/-- The shape of a column. -/
def column : Shape :=
  record [("name", optionalText), ("expr", optionalText), ("label", optionalText),
    ("settings", table any)]

/-- The shape of a vocabulary. -/
def vocabulary : Shape :=
  record [("aliases", table column), ("field_sets", table (list column)),
    ("named_aggs", table aggregation), ("named_queries", table query)]

/-- The shape of the settings of the log. -/
def logging : Shape := record [("level", text), ("format", text)]

/-- The shape of a whole configuration. -/
def configuration : Shape := record [("transform", vocabulary), ("logging", logging)]

/-! ## Queries and aggregations -/

/-- The fields of a kind of query, besides the kind. -/
def queryFields (kind : String) : List (String × Shape) :=
  match kind with
  | "and" | "or" | "not" => [("of", list query)]
  | "lucene" => [("query", any), ("default_field", any)]
  | "named" => [("name", any), ("value", any)]
  | "match_all" => []
  | kind => (Condition.fieldNames kind).map fun field => (field, any)

/-- The fields of all kinds of aggregations. -/
def aggregationFields : List (String × Shape) :=
  [("key", text), ("aggs", list aggregation), ("extensions", table any),
    ("min_doc_count", optionalCount)]

/-- The shape of a range. -/
def range : Shape := record [("key", any), ("from", any), ("to", any)]

/-- The shape of a point on the earth. -/
def point : Shape := record [("lat", any), ("lon", any)]

/-- The shapes of the fields that kinds of aggregations have. -/
def kindField (field : String) : Shape :=
  match field with
  | "ranges" => list range
  | "origin" => point
  | "filters" => table query
  | "sort" => name ["count", "key"]
  | _ => any

/-- The fields of a kind of aggregation, besides the kind and the fields of all. -/
def kindFields (kind : String) : List (String × Shape) :=
  let fields := match kind with
    | "terms" => ["field", "size", "sort", "format", "missing"]
    | "histogram" => ["field", "interval", "offset", "missing"]
    | "date_histogram" => ["field", "interval", "format", "time_zone", "missing"]
    | "range" => ["field", "ranges"]
    | "date_range" => ["field", "format", "time_zone", "ranges"]
    | "filters" => ["filters"]
    | "stats" => ["field", "format"]
    | "geo_hash" => ["field", "precision", "size"]
    | "geo_distance" => ["field", "origin", "unit", "ranges"]
    | "named" => ["name"]
    | _ => ["field"]
  fields.map fun field => (field, kindField field)

end Shape

end Sift
