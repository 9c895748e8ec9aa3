import Sift.Aggregation.Grouping

/-!
# Computing aggregations

The groups that an aggregation finds become its buckets, unless they are too small. The
aggregations inside it are then computed for the records of each bucket.

## Main definitions

* `Sift.Group.kept`: the groups that become buckets.
* `Sift.Aggregation.compute`: the result of an aggregation.
* `Sift.Aggregation.computeAll`: the results of several aggregations.
-/

set_option autoImplicit false

namespace Sift

namespace Group

variable {R : Type}

/-- The first groups that have the least number of records. -/
def kept (least limit : Option Nat) (groups : List (Group R)) : List (Group R) :=
  let large := groups.filter fun g => least.all fun n => decide (n ≤ g.records.length)
  match limit with
  | some n => large.take n
  | none => large

end Group

/-- Results by their names; of several results of one name the last one stays. -/
def AggregationResult.tabulate (results : List AggregationResult) : Table AggregationResult :=
  Table.ofList (results.map fun r => (r.key, r))

/-- The bucket of a group, with results for its records. -/
def Group.bucket {R : Type} (g : Group R) (results : List AggregationResult) : Bucket where
  key := g.key
  count := g.records.length
  aggs := AggregationResult.tabulate results
  query := g.query
  lower := g.lower
  upper := g.upper

namespace Aggregation

variable {R : Type} [Environment]

mutual

/-- The result of an aggregation for records, at an instant that is taken for the present. -/
def compute (E : Evaluator R) (now : Instant) :
    Aggregation → List R → Except Error AggregationResult
  | ⟨key, kind, aggs, _, least⟩, rs =>
    match kind.find E now rs with
    | .error e => .error e
    | .ok (.figures s) => .ok { key := key, stats := some s }
    | .ok (.single v) => .ok { key := key, value := some v }
    | .ok (.groups gs limit v) =>
      match (Group.kept least limit gs).mapM fun g =>
        (computeEach E now aggs g.records).map g.bucket with
      | .error e => .error e
      | .ok buckets => .ok { key := key, buckets := some buckets, value := v }

/-- The results of several aggregations in their order, or the first failure. -/
def computeEach (E : Evaluator R) (now : Instant) :
    List Aggregation → List R → Except Error (List AggregationResult)
  | [], _ => .ok []
  | a :: rest, rs =>
    match compute E now a rs with
    | .error e => .error e
    | .ok result =>
      match computeEach E now rest rs with
      | .error e => .error e
      | .ok results => .ok (result :: results)

end

/-- The results of several aggregations by their names. -/
def computeAll (E : Evaluator R) (now : Instant) (aggs : List Aggregation) (rs : List R) :
    Except Error (Table AggregationResult) :=
  (computeEach E now aggs rs).map AggregationResult.tabulate

end Aggregation

end Sift
