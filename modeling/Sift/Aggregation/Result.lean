import Sift.Query.Basic

/-!
# Results of aggregations

## Main definitions

* `Sift.Statistics`: count, sum, extremes and average of numbers.
* `Sift.Bucket`: a group of records, with results for the group.
* `Sift.AggregationResult`: the result of an aggregation.
* `Sift.Statistics.ofValues`: the statistics of a list of numbers.
-/

set_option autoImplicit false

namespace Sift

/-- Figures about some numbers. -/
structure Statistics where
  /-- How many numbers there are. -/
  count : Nat := 0
  /-- Their sum. -/
  sum : Double := Floating.zero false
  /-- The least one. -/
  min : Option Double := none
  /-- The greatest one. -/
  max : Option Double := none
  /-- Their average. -/
  avg : Option Double := none
deriving DecidableEq, Inhabited

mutual

/-- A group of records. -/
structure Bucket where
  /-- What the records have in common. -/
  key : Value
  /-- How many records there are. -/
  count : Nat
  /-- Figures about the group. -/
  stats : Option Statistics := none
  /-- The results of the aggregations for the group. -/
  aggs : List (String × AggregationResult) := []
  /-- The filter that selects the records. -/
  query : Option Query := none
  /-- The lower end of a range. -/
  lower : Option Value := none
  /-- The upper end of a range. -/
  upper : Option Value := none

/-- The result of an aggregation. -/
structure AggregationResult where
  /-- The name of the result. -/
  key : String
  /-- The buckets. -/
  buckets : Option (List Bucket) := none
  /-- Figures. -/
  stats : Option Statistics := none
  /-- A single value. -/
  value : Option Value := none
  /-- The field of the aggregation. -/
  field : Option String := none

end

instance : Inhabited AggregationResult := ⟨{ key := "" }⟩

instance : Inhabited Bucket := ⟨{ key := .null, count := 0 }⟩

namespace Statistics

/-- Takes one more number into account. -/
def addValue (s : Statistics) (x : Double) : Statistics :=
  { s with
    count := s.count + 1
    sum := s.sum.add x
    min := some (match s.min with | some m => m.lesser x | none => x)
    max := some (match s.max with | some m => m.greater x | none => x) }

/-- Puts the average in, if there are numbers. -/
def withAverage (s : Statistics) : Statistics :=
  if s.count = 0 then s else { s with avg := some (s.sum.div (Floating.ofInt s.count)) }

/-- The figures of numbers, added up in their order. -/
def ofValues (xs : List Double) : Statistics := (xs.foldl Statistics.addValue {}).withAverage

end Statistics

namespace AggregationResult

/-- The first bucket with a key. -/
def bucket? (r : AggregationResult) (key : Value) : Option Bucket :=
  match r.buckets with
  | some buckets => buckets.find? fun b => b.key.same key
  | none => none

end AggregationResult

end Sift
