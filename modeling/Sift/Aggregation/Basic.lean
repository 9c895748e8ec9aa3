import Sift.Geo.Point
import Sift.Query.Basic

/-!
# Aggregations

An aggregation groups records into buckets, or computes a figure from them. Most kinds look at the
values of one field. Aggregations inside an aggregation are computed for each of its buckets.

## Main definitions

* `Sift.RangeEntry`: one of the ranges of an aggregation by ranges.
* `Sift.Grouping`: what is done with the values of a field.
* `Sift.Aggregation`: aggregations.
-/

set_option autoImplicit false

namespace Sift

/-- The order of the buckets of terms. -/
inductive BucketOrder where
  /-- The largest count first, and by key among equal counts. -/
  | count
  /-- By key. -/
  | key
deriving DecidableEq, Repr

/-- A range of values with an optional name; an end that is absent is open. -/
structure RangeEntry (α : Type) where
  /-- The name. -/
  key : Option String := none
  /-- The least value. -/
  lower : Option α := none
  /-- The least value that is too large. -/
  upper : Option α := none
deriving DecidableEq, Inhabited

namespace RangeEntry

variable {α : Type}

/-- The name of a range, or else its ends with a star for an open one. -/
def bucketKey (text : α → String) (e : RangeEntry α) : String :=
  match e.key with
  | some key => key
  | none => (e.lower.map text).getD "*" ++ "-" ++ (e.upper.map text).getD "*"

end RangeEntry

/-- What an aggregation does with the values of its field. A substitute stands for the value of
records without one. -/
inductive Grouping where
  /-- A bucket for each text. -/
  | terms (size : Option Nat) (sort : Option BucketOrder) (format : Option String)
      (substitute : Option Value)
  /-- A bucket for each interval of numbers. -/
  | histogram (interval : Double) (offset : Option Double) (substitute : Option Value)
  /-- A bucket for each interval of time. -/
  | dateHistogram (interval : String) (format timeZone : Option String)
      (substitute : Option Value)
  /-- A bucket for each range of numbers. -/
  | range (ranges : List (RangeEntry Double))
  /-- A bucket for each range of time. -/
  | dateRange (format timeZone : Option String) (ranges : List (RangeEntry Value))
  /-- Count, sum, extremes and average of numbers. -/
  | stats (format : Option String)
  /-- A bucket for the records without a value. -/
  | missing
  /-- The corners around all places. -/
  | geoBounds
  /-- The mean of all places. -/
  | geoCentroid
  /-- A bucket for each cell of the globe. -/
  | geoHash (precision : Nat) (size : Option Nat)
  /-- A bucket for each range of distances from a place. -/
  | geoDistance (origin : GeoPoint) (unit : Option String) (ranges : List (RangeEntry Double))
deriving Inhabited

/-- What an aggregation looks at, and what it does with it. -/
inductive AggregationKind where
  /-- The values of a field. -/
  | onField (field : String) (grouping : Grouping)
  /-- A bucket for each of several filters. -/
  | filters (filters : List (String × Query))
  /-- What a name stands for. -/
  | named (name : String)
deriving Inhabited

/-- A request for an aggregation. -/
structure Aggregation where
  /-- The name of the result. -/
  key : String
  /-- What to compute. -/
  kind : AggregationKind
  /-- What to compute for each bucket. -/
  aggs : List Aggregation := []
  /-- Settings for stores that know more kinds. -/
  extensions : List (String × Json) := []
  /-- The least count of a bucket that is kept. -/
  minDocCount : Option Nat := none
deriving Inhabited

namespace Grouping

/-- The name of the kind of an aggregation. -/
def kindName : Grouping → String
  | terms .. => "terms"
  | histogram .. => "histogram"
  | dateHistogram .. => "date_histogram"
  | range .. => "range"
  | dateRange .. => "date_range"
  | stats .. => "stats"
  | missing => "missing"
  | geoBounds => "geo_bounds"
  | geoCentroid => "geo_centroid"
  | geoHash .. => "geo_hash"
  | geoDistance .. => "geo_distance"

/-- The names of the buckets of an aggregation by ranges. -/
def bucketKeys : Grouping → List String
  | range ranges | geoDistance _ _ ranges => ranges.map (RangeEntry.bucketKey Floating.toText)
  | dateRange _ _ ranges => ranges.map (RangeEntry.bucketKey Value.toText)
  | _ => []

end Grouping

namespace AggregationKind

/-- The name of the kind of an aggregation. -/
def name : AggregationKind → String
  | onField _ g => g.kindName
  | filters _ => "filters"
  | named _ => "named"

/-- The field that an aggregation looks at. -/
def field? : AggregationKind → Option String
  | onField f _ => some f
  | _ => none

/-- The names of the buckets of an aggregation by ranges. -/
def bucketKeys : AggregationKind → List String
  | onField _ g => g.bucketKeys
  | _ => []

end AggregationKind

end Sift
