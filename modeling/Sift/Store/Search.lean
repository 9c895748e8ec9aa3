import Sift.Aggregation.Compute
import Sift.Search.Backend
import Sift.Store.Basic

/-!
# Searching a store

The records that a query selects are aggregated, sorted and cut into pages. Records come in the
order of their identifiers where the request asks for no other, and records that are equal in all
sort keys stay in that order. Selecting, aggregating and sorting may be broken off, and the search
with them.

## Main definitions

* `Sift.SearchRequest.sorted`: records in the order that a request asks for.
* `Sift.Store.search`: the answer to a request.
* `Sift.Store.backend`: a store as a backend.
-/

set_option autoImplicit false

namespace Sift

namespace SortKey

/-- The order of two values of a sort key. Null comes last in either direction. -/
def compareValues (s : SortKey) (a b : Value) : Ordering :=
  match a.isNull, b.isNull with
  | true, true => .eq
  | true, false => .gt
  | false, true => .lt
  | false, false =>
    match s.direction with
    | .ascending => a.sortOrder b
    | .descending => (a.sortOrder b).swap

/-- The order of two lists of values of sort keys: the first difference decides. -/
def compareAll : List SortKey → List Value → List Value → Ordering
  | s :: rest, a :: as, b :: bs => (s.compareValues a b).then (compareAll rest as bs)
  | _, _, _ => .eq

end SortKey

namespace SearchRequest

variable {R : Type}

/-- The values of the sort keys of a record. -/
def sortValues (E : Evaluator R) (sorts : List SortKey) (r : R) : List Value :=
  sorts.map fun s => E.extractValue r s.field

/-- The records in the order of the sort keys. Without keys they stay as they are. -/
def sorted [Environment] (E : Evaluator R) (sorts : List SortKey) (rs : List R) :
    Except Error (List R) :=
  if sorts.isEmpty then .ok rs
  else
    match Sorting.sort? Environment.recordDisorder (fun a b => SortKey.compareAll sorts a.1 b.1)
      (rs.map fun r => (sortValues E sorts r, r)) with
    | some entries => .ok (entries.map Prod.snd)
    | none => .error .crash

/-- The columns of a record. A column without a path is null. -/
def row (E : Evaluator R) (fields : List Field) (r : R) : List Value :=
  fields.map fun f =>
    match f.path? with
    | some path => E.extractValue r path
    | none => .null

/-- The part of a list that is on the page. -/
def page {α : Type} (r : SearchRequest) (xs : List α) : List α := (xs.drop r.offset).take r.limit

end SearchRequest

namespace Store

variable {R : Type} (E : Evaluator R) (now : Instant)

/-- The answer to a request for a list of selected and sorted records. -/
def resultOf (r : SearchRequest) (aggs : Table AggregationResult) (ordered : List R) :
    SearchResult R :=
  let onPage := r.page ordered
  { aggs := aggs
    items := if r.fields.isEmpty then some onPage else none
    rows := if r.fields.isEmpty then none else some (onPage.map (SearchRequest.row E r.fields))
    totalItems := ordered.length
    fields := r.fields }

variable [Environment]

/-- The records that a query selects. -/
def matching (s : Store R) (q : Query) : Except Error (List R) :=
  match q.compile E now with
  | .error e => .error e
  | .ok p => Query.select p s.records

/-- The answer to a request, at an instant that is taken for the present. -/
def search (s : Store R) (r : SearchRequest) : Except Error (SearchResult R) :=
  match s.matching E now (r.query.getD .matchAll) with
  | .error e => .error e
  | .ok matched =>
    match Aggregation.computeAll E now r.aggs matched with
    | .error e => .error e
    | .ok aggs => (SearchRequest.sorted E r.sorts matched).map (resultOf E r aggs)

/-- The store without the record with an identifier, which has to exist. -/
def delete (s : Store R) (id : String) : Except Error (Store R) :=
  match s.find? id with
  | some _ => .ok (s.remove id)
  | none => .error (.notFound ("No entity with id '" ++ id ++ "'"))

/-- The failure of a store to choose an identifier. -/
def needsIdentifier : Error :=
  .notImplemented "create is not supported by the in-memory store, use save with an id"

/-- A store as a backend. Operations that fail leave the store as it is. -/
def backend : Backend (StateM (Store R)) R :=
  let answer (r : SearchRequest) : StateM (Store R) (Except Error (SearchResult R)) :=
    fun s => (s.search E now r, s)
  { create := fun _ s => (.error needsIdentifier, s)
    delete := fun id s =>
      match s.delete id with
      | .ok s' => (.ok true, s')
      | .error e => (.error e, s)
    find := fun id s => (.ok (s.find? id), s)
    save := fun id r s => (.ok r, s.save id r)
    search := answer
    count := Backend.countBy answer
    findOne := Backend.findOneBy answer }

end Store

end Sift
