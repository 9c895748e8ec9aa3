import Sift.Search.Backend
import Sift.Vocabulary.Expansion
import Sift.Vocabulary.Selection

/-!
# Requests in a vocabulary

A backend that knows only the fields of the records is made to understand a vocabulary: requests
are put into its words on the way in, and the caller's words are restored in results on the way
out.

## Main definitions

* `Sift.Vocabulary.request`: a request in the fields of the records.
* `Sift.Vocabulary.restore`: a result in the words of the caller.
* `Sift.Vocabulary.decorate`: a backend that understands a vocabulary.
-/

set_option autoImplicit false

namespace Sift.Vocabulary

variable (v : Vocabulary)

/-! ## The way in -/

/-- The column that a caller means. An alias gives the column its name and expression, and a
heading and settings where the caller gives none. -/
def column (f : Field) : Field :=
  match f.name.bind fun name => Table.find? name v.aliases with
  | some a =>
    { name := a.name
      expr := a.expr
      label := f.label.or a.label
      settings := if f.settings.isEmpty then a.settings else f.settings }
  | none => f

/-- The columns that a caller means, with those of a named list at the end. -/
def columns (fields : List Field) (fieldSet : Option String) : List Field :=
  let listed := (fieldSet.bind fun name => Table.find? name v.fieldSets).getD []
  (fields ++ listed).map v.column

/-- The sort key that a caller means. The expression of an alias goes before its name. -/
def sortKey (s : SortKey) : SortKey :=
  { s with
    field := ((Table.find? s.field v.aliases).bind fun a => a.expr.or a.name).getD s.field }

/-- The request that a caller means, in the fields of the records. A named list of columns that is
not defined here is left to the backend. -/
def request (r : SearchRequest) : Except Error SearchRequest :=
  match r.query.mapM (v.query r.timeZone?) with
  | .error e => .error e
  | .ok q =>
    match v.aggregationsOf r.aggs with
    | .error e => .error e
    | .ok aggs =>
      .ok { r with
            query := q
            fields := v.columns r.fields r.fieldSet
            fieldSet := r.fieldSet.filter fun name => !Table.contains name v.fieldSets
            sorts := r.sorts.map v.sortKey
            aggs := aggs }

/-! ## The way out -/

/-- Puts filters in their defined form into the buckets of a result. -/
def restoreFilters (filters : List (String × Query)) (result : AggregationResult) :
    AggregationResult :=
  { result with
    buckets := result.buckets.map fun buckets =>
      buckets.map fun b => { b with query := Table.find? b.key.toText filters } }

/-- A result in the words of the caller: for a named aggregation it shows the filters or the field
of the definition. -/
def restoreResult (a : Aggregation) (result : AggregationResult) : AggregationResult :=
  match a.kind with
  | .named name =>
    match (Table.find? name v.aggregations).map Aggregation.kind with
    | some (.filters filters) => restoreFilters filters result
    | some kind => { result with field := kind.field?.or result.field }
    | none => result
  | _ => result

/-- The results of the requested aggregations. Each result is used once, and results that nobody
asked for are left out. -/
def restoreResults : List Aggregation → Table AggregationResult → Table AggregationResult
  | [], _ => []
  | a :: rest, results =>
    match Table.find? a.key results with
    | some result =>
      Table.insert a.key (v.restoreResult a result)
        (restoreResults rest (Table.erase a.key results))
    | none => restoreResults rest results

/-- A result in the words of the caller, with the columns as they were asked for. -/
def restore {T : Type} (r : SearchRequest) (result : SearchResult T) : SearchResult T :=
  { result with fields := r.fields, aggs := v.restoreResults r.aggs result.aggs }

/-! ## Backends -/

variable {m : Type → Type} [Monad m] {T : Type}

/-- Answers a request in a vocabulary by a search without it. -/
def searchWith (search : SearchRequest → m (Except Error (SearchResult T))) (r : SearchRequest) :
    m (Except Error (SearchResult T)) :=
  match v.request r with
  | .error e => pure (.error e)
  | .ok sent => (fun answer => answer.map (v.restore r)) <$> search sent

/-- Answers a query in a vocabulary by an operation without it. -/
def askWith {α : Type} (ask : Query → m (Except Error α)) (q : Query) : m (Except Error α) :=
  match v.query none q with
  | .error e => pure (.error e)
  | .ok sent => ask sent

/-- A backend that understands a vocabulary. -/
def decorate (b : Backend m T) : Backend m T :=
  { b with
    search := v.searchWith b.search
    count := v.askWith b.count
    findOne := v.askWith b.findOne }

end Sift.Vocabulary
