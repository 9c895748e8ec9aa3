import Sift.Aggregation.Result
import Sift.Query.Encoding

/-!
# Results of aggregations as JSON documents

## Main definitions

* `Sift.Statistics.toJson`, `Sift.Bucket.toJson`, `Sift.AggregationResult.toJson`: the documents.
* `Sift.Statistics.ofJson?`, `Sift.Bucket.ofJson?`, `Sift.AggregationResult.ofJson?`: what they
  say.
-/

set_option autoImplicit false

namespace Sift

namespace Statistics

/-- The fields of figures, in their order. Figures that do not exist are null. -/
def entries (s : Statistics) : List (String × Json) :=
  [("count", .int s.count), ("sum", .double s.sum), ("min", Json.ofOption .double s.min),
    ("max", Json.ofOption .double s.max), ("avg", Json.ofOption .double s.avg)]

/-- The document of figures. -/
def toJson (s : Statistics) : Json := .record (s.entries.map fun e => (e.1, some e.2))

/-- The figures of a document. -/
def ofJson? (x : Json) : Option Statistics :=
  (x.fields? ["count", "sum", "min", "max", "avg"] 5).bind fun t =>
    match Json.required "count" Json.nat? t, Json.required "sum" Json.double? t,
      Json.optional "min" Json.double? t, Json.optional "max" Json.double? t,
      Json.optional "avg" Json.double? t with
    | some count, some sum, some min, some max, some avg => some ⟨count, sum, min, max, avg⟩
    | _, _, _, _, _ => none

end Statistics

mutual

/-- The document of a bucket. -/
def Bucket.toJson : Bucket → Json
  | ⟨key, count, stats, aggs, query, lower, upper⟩ =>
    .record [("key", some key.toJson), ("count", some (.int count)),
      ("stats", stats.map Statistics.toJson),
      ("aggs", if aggs.isEmpty then none else some (.obj (AggregationResult.toJsonTable aggs))),
      ("query", query.map Query.toJson), ("from", lower.map Value.toJson),
      ("to", upper.map Value.toJson)]

/-- The documents of several buckets. -/
def Bucket.toJsonList : List Bucket → List Json
  | [] => []
  | b :: rest => b.toJson :: Bucket.toJsonList rest

/-- The document of a result. -/
def AggregationResult.toJson : AggregationResult → Json
  | ⟨key, buckets, stats, value, field⟩ =>
    .record [("key", some (.str key)),
      ("buckets", match buckets with
        | some buckets => some (.arr (Bucket.toJsonList buckets))
        | none => none),
      ("stats", stats.map Statistics.toJson), ("value", value.map Value.toJson),
      ("field", field.map .str)]

/-- The documents of the results in a table. -/
def AggregationResult.toJsonTable : List (String × AggregationResult) → List (String × Json)
  | [] => []
  | (k, r) :: rest => (k, r.toJson) :: AggregationResult.toJsonTable rest

end

/-- Reads a value. -/
def Bucket.value? (x : Json) : Option Value := some (Value.ofJson x)

/-- A bucket from the fields of its record and the results in it. -/
def Bucket.assemble? (t : Table Json) (aggs : Option (List (String × AggregationResult))) :
    Option Bucket :=
  match Json.required "key" Bucket.value? t, Json.required "count" Json.nat? t,
    Json.optional "stats" Statistics.ofJson? t, aggs,
    Json.optional "query" (Query.ofJson? false) t, Json.optional "from" Bucket.value? t,
    Json.optional "to" Bucket.value? t with
  | some key, some count, some stats, some aggs, some query, some lower, some upper =>
    some ⟨key, count, stats, aggs, query, lower, upper⟩
  | _, _, _, _, _, _, _ => none

/-- A result from the fields of its record and the buckets in it. -/
def AggregationResult.assemble? (t : Table Json) (buckets : Option (Option (List Bucket))) :
    Option AggregationResult :=
  match Json.required "key" Json.text? t, buckets, Json.optional "stats" Statistics.ofJson? t,
    Json.optional "value" Bucket.value? t, Json.optional "field" Json.text? t with
  | some key, some buckets, some stats, some value, some field =>
    some ⟨key, buckets, stats, value, field⟩
  | _, _, _, _, _ => none

/-- The names of the fields of a bucket, in their order. -/
def Bucket.fieldNames : List String := ["key", "count", "stats", "aggs", "query", "from", "to"]

/-- The names of the fields of a result, in their order. -/
def AggregationResult.fieldNames : List String := ["key", "buckets", "stats", "value", "field"]

mutual

/-- The bucket of a document. -/
def Bucket.ofJson? : Json → Option Bucket
  | .obj members => Bucket.assemble? members (Bucket.inner? members)
  | .arr items =>
    match Json.fields? Bucket.fieldNames 0 (.arr items) with
    | some t => Bucket.assemble? t (Bucket.fourth? items)
    | none => none
  | _ => none

/-- The results among the members of a bucket. -/
def Bucket.inner? : List (String × Json) → Option (List (String × AggregationResult))
  | [] => some []
  | (k, x) :: rest => if k = "aggs" then AggregationResult.table? x else Bucket.inner? rest

/-- The results at the fourth place of a list. -/
def Bucket.fourth? : List Json → Option (List (String × AggregationResult))
  | _ :: _ :: _ :: x :: _ => AggregationResult.table? x
  | _ => some []

/-- The results of a table. -/
def AggregationResult.table? : Json → Option (List (String × AggregationResult))
  | .obj members => AggregationResult.ofMembers? members
  | _ => none

/-- The results of the members of an object. -/
def AggregationResult.ofMembers? :
    List (String × Json) → Option (List (String × AggregationResult))
  | [] => some []
  | (k, x) :: rest =>
    match AggregationResult.ofJson? x, AggregationResult.ofMembers? rest with
    | some r, some rs => some ((k, r) :: rs)
    | _, _ => none

/-- The result of a document. -/
def AggregationResult.ofJson? : Json → Option AggregationResult
  | .obj members => AggregationResult.assemble? members (AggregationResult.inner? members)
  | .arr items =>
    match Json.fields? AggregationResult.fieldNames 0 (.arr items) with
    | some t => AggregationResult.assemble? t (AggregationResult.second? items)
    | none => none
  | _ => none

/-- The buckets among the members of a result. -/
def AggregationResult.inner? : List (String × Json) → Option (Option (List Bucket))
  | [] => some none
  | (k, x) :: rest => if k = "buckets" then Bucket.list? x else AggregationResult.inner? rest

/-- The buckets at the second place of a list. -/
def AggregationResult.second? : List Json → Option (Option (List Bucket))
  | _ :: x :: _ => Bucket.list? x
  | _ => some none

/-- The buckets of a list, none for null. -/
def Bucket.list? : Json → Option (Option (List Bucket))
  | .null => some none
  | .arr items =>
    match Bucket.ofJsonList? items with
    | some buckets => some (some buckets)
    | none => none
  | _ => none

/-- The buckets of list elements. -/
def Bucket.ofJsonList? : List Json → Option (List Bucket)
  | [] => some []
  | x :: rest =>
    match Bucket.ofJson? x, Bucket.ofJsonList? rest with
    | some b, some bs => some (b :: bs)
    | _, _ => none

end

end Sift
