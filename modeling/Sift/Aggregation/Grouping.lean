import Sift.Aggregation.Basic
import Sift.Aggregation.Group
import Sift.Aggregation.Result
import Sift.Geo.Cell
import Sift.Geo.Distance
import Sift.Geo.Extent
import Sift.Geo.Reading
import Sift.Query.Predicate
import Sift.Sorting
import Sift.Time.Format
import Sift.Time.Interval

/-!
# Groupings of records

What an aggregation finds in a list of records: a value, some figures, or groups. The groups of
terms and of cells come with the largest first, those of intervals in ascending order, and those
of ranges and filters as they are written in the aggregation. Computing the dates of records and
sorting the groups may be broken off.

## Main definitions

* `Sift.Finding`: what an aggregation finds.
* `Sift.Grouping.find`: what a grouping of the values of a field finds.
* `Sift.AggregationKind.find`: what an aggregation finds.
-/

set_option autoImplicit false

namespace Sift

/-- What an aggregation finds in records. -/
inductive Finding (R : Type) where
  /-- Figures about numbers. -/
  | figures (stats : Statistics)
  /-- A value. -/
  | single (value : Value)
  /-- Groups, of which at most `limit` are kept, and perhaps a value beside them. -/
  | groups (groups : List (Group R)) (limit : Option Nat) (value : Option Value)

namespace RangeEntry

/-- Whether a number lies in a range. -/
def contains (e : RangeEntry Double) (x : Double) : Bool :=
  e.lower.all (fun l => l.numLe x) && e.upper.all fun u => x.numLt u

end RangeEntry

namespace Grouping

variable {R : Type} (E : Evaluator R)

/-- The values of a field of a record that are not null, or else the substitute. -/
def valuesOr (field : String) (substitute : Option Value) (r : R) : List Value :=
  let values := (E.extract r field).filter fun v => !v.isNull
  if values.isEmpty then substitute.toList else values

/-- The places of a field of a record. -/
def placesOf (field : String) (r : R) : List GeoPoint := (E.extractValue r field).places

/-! ## Orders of groups -/

/-- The larger group first, and groups of one size by key. -/
def byCount (a b : Group R) : Ordering :=
  (compare b.records.length a.records.length).then (a.key.sortOrder b.key)

/-- By key. -/
def byKey (a b : Group R) : Ordering := a.key.sortOrder b.key

/-- The order that an aggregation asks for. -/
def order (o : BucketOrder) : Group R → Group R → Ordering :=
  match o with
  | .count => byCount
  | .key => byKey

/-- Groups in an order. -/
def sorted [Environment] (order : Group R → Group R → Ordering) (groups : List (Group R)) :
    Except Error (List (Group R)) :=
  match Sorting.sort? Environment.groupDisorder order groups with
  | some groups => .ok groups
  | none => .error .crash

/-! ## Terms -/

/-- A group for each text of a value; the first value with the text is the key. -/
def termGroups (field : String) (substitute : Option Value) (rs : List R) : List (Group R) :=
  let mentioned (r : R) := (valuesOr E field substitute r).map fun v => (v.toText, v)
  (Group.gather Prod.fst (rs.map fun r => (r, mentioned r))).map fun (e, records) =>
    { key := e.2, records := records }

/-! ## Intervals of numbers -/

/-- The number of the interval in which a number lies, kept within 64 bits. -/
def slot (interval offset x : Double) : Int :=
  ((x.sub offset).div interval).clampWith Floating.floor Int64.minValue.toInt
    Int64.maxValue.toInt

/-- The start of an interval. -/
def slotStart (interval offset : Double) (n : Int) : Double :=
  (Double.mul (Floating.ofInt n) interval).add offset

/-- Records grouped by the integers that they mention, in ascending order. Each record comes with
the list of what it mentions. -/
def gatherAscending (entries : List (R × List Int)) : List (Int × List R) :=
  Sorting.sort (fun a b => compare a.1 b.1) (Group.gather id entries)

/-- A group for each interval that holds a number. -/
def intervalGroups (field : String) (interval offset : Double) (substitute : Option Value)
    (rs : List R) : List (Group R) :=
  let mentioned (r : R) := (valuesOr E field substitute r).filterMap fun v =>
    match v.toDouble? with
    | some x => if x.isFinite then some (slot interval offset x) else none
    | none => none
  (gatherAscending (rs.map fun r => (r, mentioned r))).map fun (n, records) =>
    let start := slotStart interval offset n
    { key := .double start
      lower := some (.double start)
      upper := some (.double (start.add interval))
      records := records }

/-! ## Intervals of time -/

/-- The milliseconds that a number stands for. -/
def millisOf? : Value → Option Int
  | .int n => some n.toInt
  | .long n => some n.toInt
  | .float x => x.toInt64?.map Int64.toInt
  | .double x => x.toInt64?.map Int64.toInt
  | _ => none

/-- The milliseconds of a record value that is a date. -/
def recordMillis? (zone : Zone) (v : Value) : Except Error (Option Int) :=
  (v.recordDate zone).map millisOf?

/-- An instant in a format; its milliseconds where there is no format or the format is
invalid. -/
def writtenInstant (zone : Zone) (format : Option String) (t : Instant) : Value :=
  match format.bind (zone.localize t).format? with
  | some s => .str s
  | none => .long (Int64.ofInt t.millis)

/-- The start of the interval in which a record value lies, in milliseconds. Values that are no
dates and dates whose interval is out of range have none. -/
def dateSlot? (interval : Interval) (zone : Zone) (v : Value) : Except Error (Option Int) :=
  match recordMillis? zone v with
  | .error e => .error e
  | .ok millis =>
    match millis.bind Instant.ofMillis? with
    | some t =>
      (DateError.settle (interval.bucketStart t zone)).map fun start => start.map Instant.millis
    | none => .ok none

/-- The starts of the intervals in which the values of a record lie. -/
def dateSlots (interval : Interval) (zone : Zone) (values : List Value) :
    Except Error (List Int) :=
  (values.mapM (dateSlot? interval zone)).map fun slots => slots.filterMap id

/-- The group of the records in the interval of time that starts at an instant. -/
def dateGroup (interval : Interval) (zone : Zone) (format : Option String) (start : Int)
    (records : List R) : Except DateError (Group R) :=
  match Instant.ofMillis? start with
  | none => .error (.noBucketStart start)
  | some t =>
    match interval.unit.add (zone.localize t) interval.count.toInt zone with
    | .error e => .error e
    | .ok u =>
      .ok { key := .long (Int64.ofInt start)
            lower := some (writtenInstant zone format t)
            upper := some (writtenInstant zone format u.instant)
            records := records }

/-- A group for each interval of time that holds a date. -/
def dateIntervalGroups (field : String) (interval : Interval) (zone : Zone)
    (format : Option String) (substitute : Option Value) (rs : List R) :
    Except Error (List (Group R)) :=
  let slots (r : R) := dateSlots interval zone (valuesOr E field substitute r)
  match rs.mapM fun r => (slots r).map fun starts => (r, starts) with
  | .error e => .error e
  | .ok entries =>
    (gatherAscending entries).mapM fun (start, records) =>
      (dateGroup interval zone format start records).mapError DateError.toError

/-! ## Ranges -/

/-- The group of the records with a number in a range. -/
def rangeGroup (e : RangeEntry Double) (numbers : R → List Double) (rs : List R) : Group R where
  key := .str (e.bucketKey Floating.toText)
  lower := e.lower.map .double
  upper := e.upper.map .double
  records := rs.filter fun r => (numbers r).any e.contains

/-- The instant of a bound: what a date expression says, or milliseconds. -/
def boundInstant (now : Instant) (zone : Zone) (v : Value) : Except Error Instant :=
  match v with
  | .str s => (DateExpression.evaluate s now false zone).mapError DateError.toError
  | v =>
    match v.toLong?.bind fun n => Instant.ofMillis? n.toInt with
    | some t => .ok t
    | none => .error (.invalidQuery ("Invalid date range bound " ++ v.toText))

/-- The instant of a bound that may be absent. -/
def boundInstant? (now : Instant) (zone : Zone) : Option Value → Except Error (Option Instant)
  | none => .ok none
  | some v => (boundInstant now zone v).map some

/-- Whether milliseconds lie between two instants, of which the later one is excluded. -/
def between (lower upper : Option Instant) (millis : Int) : Bool :=
  lower.all (fun t => decide (t.millis ≤ millis)) && upper.all fun t => decide (millis < t.millis)

/-- Whether some of the values is a date in a range. The values are looked at until one is. -/
def someBetween (zone : Zone) (lower upper : Option Instant) (values : List Value) :
    Except Error Bool :=
  values.anyM fun v => (recordMillis? zone v).map fun millis => millis.any (between lower upper)

/-- The group of the records with a date in a range. -/
def dateRangeGroup (now : Instant) (field : String) (zone : Zone) (format : Option String)
    (rs : List R) (e : RangeEntry Value) : Except Error (Group R) :=
  match boundInstant? now zone e.lower with
  | .error e => .error e
  | .ok lower =>
    match boundInstant? now zone e.upper with
    | .error e => .error e
    | .ok upper =>
      (Query.select (fun r => someBetween zone lower upper (E.extract r field)) rs).map
        fun inside =>
          { key := .str (e.bucketKey Value.toText)
            lower := lower.map (writtenInstant zone format)
            upper := upper.map (writtenInstant zone format)
            records := inside }

/-! ## Places -/

/-- The names of the cells of places, or the first failure. -/
def cellsOf (precision : Nat) (ps : List GeoPoint) : Except Error (List String) :=
  ps.mapM fun p => p.cell precision

/-- A group for each cell that holds a place. -/
def cellGroups (field : String) (precision : Nat) (rs : List R) : Except Error (List (Group R)) :=
  match rs.mapM fun r => (cellsOf precision (placesOf E field r)).map fun names => (r, names) with
  | .error e => .error e
  | .ok entries => .ok ((Group.gather id entries).map fun (name, records) =>
      { key := .str name, records := records })

/-! ## All groupings -/

variable [Environment]

/-- What a grouping of the values of a field finds in records. -/
def find (now : Instant) (field : String) (rs : List R) : Grouping → Except Error (Finding R)
  | terms size sort _ substitute =>
    match sorted (order (sort.getD .count)) (termGroups E field substitute rs) with
    | .error e => .error e
    | .ok gs => .ok (.groups gs size none)
  | histogram interval offset substitute =>
    if interval.isFinite && (Floating.zero false).numLt interval then
      .ok (.groups (intervalGroups E field interval (offset.getD (Floating.zero false))
        substitute rs) none none)
    else
      .error (.invalidQuery ("Histogram interval must be positive, got " ++ interval.toText))
  | dateHistogram interval format timeZone substitute =>
    match Interval.parse interval with
    | .error e => .error e.toError
    | .ok i =>
      match dateIntervalGroups E field i (Zone.ofIdOrUtc timeZone) format substitute rs with
      | .error e => .error e
      | .ok gs => .ok (.groups gs none none)
  | range ranges =>
    let numbers (r : R) := (E.extract r field).filterMap Value.toDouble?
    .ok (.groups (ranges.map fun e => rangeGroup e numbers rs) none none)
  | dateRange format timeZone ranges =>
    match ranges.mapM (dateRangeGroup E now field (Zone.ofIdOrUtc timeZone) format rs) with
    | .error e => .error e
    | .ok gs => .ok (.groups gs none none)
  | stats _ =>
    .ok (.figures (Statistics.ofValues (rs.flatMap fun r =>
      (E.extract r field).filterMap Value.toDouble?)))
  | missing =>
    let without := rs.filter fun r => (E.extract r field).all Value.isNull
    .ok (.groups [{ key := .str "missing", records := without }] none
      (some (.long (Int64.ofInt without.length))))
  | geoBounds => .ok (.single (GeoPoint.extentValue (rs.flatMap (placesOf E field))))
  | geoCentroid => .ok (.single (GeoPoint.centroidValue (rs.flatMap (placesOf E field))))
  | geoHash precision size =>
    match cellGroups E field precision rs with
    | .error e => .error e
    | .ok gs =>
      match sorted byCount gs with
      | .error e => .error e
      | .ok gs => .ok (.groups gs size none)
  | geoDistance origin unit ranges =>
    match DistanceUnit.ofRequest unit with
    | .error e => .error e
    | .ok u =>
      let distances (r : R) := (placesOf E field r).map fun p => (origin.distance p).div u.metres
      .ok (.groups (ranges.map fun e => rangeGroup e distances rs) none none)

end Grouping

namespace AggregationKind

variable {R : Type} [Environment] (E : Evaluator R) (now : Instant)

/-- The group of the records that a filter selects. -/
def filterGroup (rs : List R) (filter : String × Query) : Except Error (Group R) :=
  match filter.2.compile E now with
  | .error e => .error e
  | .ok p =>
    (Query.select p rs).map fun selected =>
      { key := .str filter.1, query := some filter.2, records := selected }

/-- What an aggregation finds in records. A name has to be replaced by what it stands for
before. -/
def find (rs : List R) : AggregationKind → Except Error (Finding R)
  | onField field g => g.find E now field rs
  | filters fs =>
    match fs.mapM (filterGroup E now rs) with
    | .error e => .error e
    | .ok gs => .ok (.groups gs none none)
  | named name =>
    .error (.unsupported ("Named aggregation '" ++ name ++ "' must be resolved before execution"))

end AggregationKind

end Sift
