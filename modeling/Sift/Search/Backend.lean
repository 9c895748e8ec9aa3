import Sift.Error
import Sift.Search.Result

/-!
# Backends

A backend keeps records and answers requests. Its operations run in a monad of its own, which can
hold the records or note what was asked; a failed operation is a value of that monad.

## Main definitions

* `Sift.Backend`: what a backend offers.
* `Sift.SearchRequest.counting`, `Sift.SearchRequest.first`: the requests behind a count and behind
  a search for one record.
-/

set_option autoImplicit false

namespace Sift

/-- What a backend for records of a type offers. -/
structure Backend (m : Type → Type) (T : Type) where
  /-- Stores a record under an identifier of the backend's choice. -/
  create : T → m (Except Error T)
  /-- Removes the record with an identifier, and says whether there was one. -/
  delete : String → m (Except Error Bool)
  /-- The record with an identifier. -/
  find : String → m (Except Error (Option T))
  /-- Stores a record under an identifier, in place of an earlier one. -/
  save : String → T → m (Except Error T)
  /-- Answers a request. -/
  search : SearchRequest → m (Except Error (SearchResult T))
  /-- How many records a query selects. -/
  count : Query → m (Except Error Nat)
  /-- The first record that a query selects. -/
  findOne : Query → m (Except Error (Option T))

namespace SearchRequest

/-- The request for the number of records that a query selects. -/
def counting (q : Query) : SearchRequest := { query := some q, offset := 0, limit := 0 }

/-- The request for the first record that a query selects. -/
def first (q : Query) : SearchRequest := { query := some q, offset := 0, limit := 1 }

end SearchRequest

namespace Backend

variable {m : Type → Type} [Monad m] {T : Type}

/-- Counts by a search. -/
def countBy (search : SearchRequest → m (Except Error (SearchResult T))) (q : Query) :
    m (Except Error Nat) :=
  (fun r => r.map SearchResult.totalItems) <$> search (.counting q)

/-- Finds the first record by a search. -/
def findOneBy (search : SearchRequest → m (Except Error (SearchResult T))) (q : Query) :
    m (Except Error (Option T)) :=
  (fun r => r.map fun result => result.itemsOrEmpty.head?) <$> search (.first q)

end Backend

end Sift
