import Sift.Aggregation.Basic
import Sift.Query.Encoding

/-!
# Aggregations as JSON documents

An aggregation is one object: the fields of its kind stand beside its key, the aggregations inside
it, its extensions and its least count.

## Main definitions

* `Sift.Aggregation.toJson`: the document of an aggregation.
* `Sift.Aggregation.ofJson?`: the aggregation of a document.
-/

set_option autoImplicit false

namespace Sift

namespace RangeEntry

variable {α : Type}

/-- The document of a range. -/
def toJson (encode : α → Json) (e : RangeEntry α) : Json :=
  .record [("key", e.key.map .str), ("from", e.lower.map encode), ("to", e.upper.map encode)]

/-- The range of a document. -/
def ofJson? (read : Json → Option α) (x : Json) : Option (RangeEntry α) :=
  (x.fields? ["key", "from", "to"] 0).bind fun t =>
    match Json.optional "key" Json.text? t, Json.optional "from" read t,
      Json.optional "to" read t with
    | some key, some lower, some upper => some ⟨key, lower, upper⟩
    | _, _, _ => none

end RangeEntry

namespace BucketOrder

/-- The name of an order. -/
def name : BucketOrder → String
  | count => "count"
  | key => "key"

/-- The order of a document. -/
def ofJson? (x : Json) : Option BucketOrder :=
  match x.name? ["count", "key"] true with
  | some "count" => some count
  | some "key" => some key
  | _ => none

end BucketOrder

namespace Grouping

/-- The fields of a grouping. -/
def entries : Grouping → List (String × Option Json)
  | terms size sort format substitute =>
    [("size", size.map fun n => .int n), ("sort", sort.map fun o => .str o.name),
      ("format", format.map .str), ("missing", substitute.map Value.toJson)]
  | histogram interval offset substitute =>
    [("interval", some (.double interval)), ("offset", offset.map .double),
      ("missing", substitute.map Value.toJson)]
  | dateHistogram interval format timeZone substitute =>
    [("interval", some (.str interval)), ("format", format.map .str),
      ("time_zone", timeZone.map .str), ("missing", substitute.map Value.toJson)]
  | range ranges => [("ranges", some (.arr (ranges.map (RangeEntry.toJson .double))))]
  | dateRange format timeZone ranges =>
    [("format", format.map .str), ("time_zone", timeZone.map .str),
      ("ranges", some (.arr (ranges.map (RangeEntry.toJson Value.toJson))))]
  | stats format => [("format", format.map .str)]
  | missing | geoBounds | geoCentroid => []
  | geoHash precision size =>
    [("precision", some (.int precision)), ("size", size.map fun n => .int n)]
  | geoDistance origin unit ranges =>
    [("origin", some origin.toJson), ("unit", unit.map .str),
      ("ranges", some (.arr (ranges.map (RangeEntry.toJson .double))))]

/-- Reads a value. -/
def value? (x : Json) : Option Value := some (Value.ofJson x)

/-- The grouping of a kind among the fields of a record. -/
def ofFields? (kind : String) (t : Table Json) : Option Grouping :=
  match kind with
  | "terms" =>
    match Json.optional "size" Json.nat? t, Json.optional "sort" BucketOrder.ofJson? t,
      Json.optional "format" Json.text? t, Json.optional "missing" value? t with
    | some size, some sort, some format, some m => some (terms size sort format m)
    | _, _, _, _ => none
  | "histogram" =>
    match Json.required "interval" Json.double? t, Json.optional "offset" Json.double? t,
      Json.optional "missing" value? t with
    | some interval, some offset, some m => some (histogram interval offset m)
    | _, _, _ => none
  | "date_histogram" =>
    match Json.required "interval" Json.text? t, Json.optional "format" Json.text? t,
      Json.optional "time_zone" Json.text? t, Json.optional "missing" value? t with
    | some interval, some format, some tz, some m => some (dateHistogram interval format tz m)
    | _, _, _, _ => none
  | "range" =>
    (Json.required "ranges" (Json.list? (RangeEntry.ofJson? Json.double?)) t).map range
  | "date_range" =>
    match Json.optional "format" Json.text? t, Json.optional "time_zone" Json.text? t,
      Json.required "ranges" (Json.list? (RangeEntry.ofJson? value?)) t with
    | some format, some tz, some ranges => some (dateRange format tz ranges)
    | _, _, _ => none
  | "stats" => (Json.optional "format" Json.text? t).map stats
  | "missing" => some missing
  | "geo_bounds" => some geoBounds
  | "geo_centroid" => some geoCentroid
  | "geo_hash" =>
    match Json.required "precision" Json.nat? t, Json.optional "size" Json.nat? t with
    | some precision, some size => some (geoHash precision size)
    | _, _ => none
  | "geo_distance" =>
    match Json.required "origin" GeoPoint.ofJson? t, Json.optional "unit" Json.text? t,
      Json.required "ranges" (Json.list? (RangeEntry.ofJson? Json.double?)) t with
    | some origin, some unit, some ranges => some (geoDistance origin unit ranges)
    | _, _, _ => none
  | _ => none

end Grouping

namespace AggregationKind

/-- The kinds of aggregations, in the order of their numbers. -/
def names : List String :=
  ["terms", "histogram", "date_histogram", "range", "date_range", "filters", "stats", "missing",
    "geo_bounds", "geo_centroid", "geo_hash", "geo_distance", "named"]

/-- The fields of a kind. -/
def entries : AggregationKind → List (String × Option Json)
  | onField f g => ("type", some (.str g.kindName)) :: ("field", some (.str f)) :: g.entries
  | filters fs =>
    [("type", some (.str "filters")),
      ("filters", some (.obj (fs.map fun e => (e.1, e.2.toJson))))]
  | named n => [("type", some (.str "named")), ("name", some (.str n))]

/-- The kind among the fields of a record. -/
def ofFields? (t : Table Json) : Option AggregationKind :=
  match Json.required "type" (Json.tag? names true) t with
  | none => none
  | some "filters" =>
    (Json.required "filters" (Json.table? (Query.ofJson? true)) t).map filters
  | some "named" => (Json.required "name" Json.text? t).map named
  | some kind =>
    match Json.required "field" Json.text? t, Grouping.ofFields? kind t with
    | some f, some g => some (onField f g)
    | _, _ => none

end AggregationKind

namespace Aggregation

mutual

/-- The document of an aggregation. -/
def toJson : Aggregation → Json
  | ⟨key, kind, aggs, extensions, minDocCount⟩ =>
    .record (("key", some (.str key)) :: ("aggs", if aggs.isEmpty then none
      else some (.arr (toJsonList aggs))) ::
      ("extensions", Json.ofNonemptyTable id extensions) ::
      ("min_doc_count", minDocCount.map fun n => .int n) :: kind.entries)

/-- The documents of several aggregations. -/
def toJsonList : List Aggregation → List Json
  | [] => []
  | a :: rest => a.toJson :: toJsonList rest

end

/-- Any document. -/
def any? (x : Json) : Option Json := some x

/-- An aggregation from the members of its object and the aggregations inside it. -/
def assemble? (members : Table Json) (aggs : Option (List Aggregation)) : Option Aggregation :=
  match Json.required "key" Json.text? members, AggregationKind.ofFields? members, aggs,
    Json.defaulted "extensions" [] (Json.table? any?) members,
    Json.optional "min_doc_count" Json.nat? members with
  | some key, some kind, some aggs, some extensions, some count =>
    some ⟨key, kind, aggs, extensions, count⟩
  | _, _, _, _, _ => none

mutual

/-- The aggregation of a document. -/
def ofJson? : Json → Option Aggregation
  | .obj members => assemble? members (inner? members)
  | _ => none

/-- The aggregations among the members of an object, none where there is no such member. -/
def inner? : List (String × Json) → Option (List Aggregation)
  | [] => some []
  | (k, x) :: rest => if k = "aggs" then list? x else inner? rest

/-- The aggregations of a list. -/
def list? : Json → Option (List Aggregation)
  | .arr items => ofJsonList? items
  | _ => none

/-- The aggregations of list elements. -/
def ofJsonList? : List Json → Option (List Aggregation)
  | [] => some []
  | x :: rest =>
    match ofJson? x, ofJsonList? rest with
    | some a, some as => some (a :: as)
    | _, _ => none

end

/-- A list of aggregations is written one by one. -/
@[simp] theorem toJsonList_eq_map (as : List Aggregation) : toJsonList as = as.map toJson := by
  induction as with
  | nil => rfl
  | cons a rest ih => simp [toJsonList, ih]

end Aggregation

end Sift
