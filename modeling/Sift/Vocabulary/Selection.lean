import Sift.Query.Substitution
import Sift.Time.Interval
import Sift.Value.Coerce
import Sift.Vocabulary.Basic
import Sift.Vocabulary.NameError

/-!
# Queries by name

A named query stands for a query of that name or, where there is none, for the filter that selects
the records of one bucket of an aggregation of that name. Texts in definitions are replaced by what
they say; names in definitions stay.

## Main definitions

* `Sift.Grouping.selection`: the filter of a bucket.
* `Sift.Vocabulary.meaning`: what a named query stands for.
* `Sift.Vocabulary.expandNames`: puts what they stand for in the place of names.
-/

set_option autoImplicit false

namespace Sift

namespace Grouping

/-- The ends of the range with a key, the lower one included. -/
def boundsOfKey? {α : Type} (text : α → String) (value : α → Value) (key : String)
    (ranges : List (RangeEntry α)) : Option Bounds :=
  (ranges.find? fun e => e.bucketKey text = key).map fun e =>
    { gte := e.lower.map value, lt := e.upper.map value }

/-- The filter that selects the records in the bucket with a key. The aggregation has the given
name, and dates without a time zone of their own are taken in the given one. -/
def selection (name field : String) (key : Value) (timeZone : Option String) :
    Grouping → Except NameError Query
  | terms .. => .ok (.leaf field (.term key))
  | missing => .ok (.not [.exists field])
  | range ranges =>
    match boundsOfKey? Floating.toText .double key.toText ranges with
    | some b => .ok (.leaf field (.range b))
    | none => .error (.noBucket name key.toText)
  | dateRange _ tz ranges =>
    match boundsOfKey? Value.toText id key.toText ranges with
    | some b => .ok (.leaf field (.dateRange b (tz.or timeZone)))
    | none => .error (.noBucket name key.toText)
  | histogram interval _ _ =>
    match key.toDouble? with
    | some start =>
      .ok (.leaf field (.range { gte := some (.double start)
                                 lt := some (.double (start.add interval)) }))
    | none => .error (.notNumeric name key.toText)
  | dateHistogram interval _ tz _ =>
    match Interval.parse interval with
    | .ok i =>
      .ok (.leaf field (.dateRange { gte := some key
                                     lt := some (.str (key.toText ++ "||" ++ i.step)) }
        (tz.or timeZone)))
    | .error e => .error (.interval e)
  | g => .error (.notSelectable name g.kindName)

end Grouping

/-- The filter that selects the records in the bucket with a key. -/
def AggregationKind.selection (name : String) (key : Value) (timeZone : Option String) :
    AggregationKind → Except NameError Query
  | onField field g => g.selection name field key timeZone
  | filters fs =>
    match Table.find? key.toText fs with
    | some q => .ok q
    | none => .error (.noBucket name key.toText)
  | k => .error (.notSelectable name k.name)

namespace Vocabulary

/-- What a named query stands for before texts are expanded. -/
def definition (v : Vocabulary) (timeZone : Option String) (name : String) (key : Value) :
    Except NameError Query :=
  match Table.find? name v.queries with
  | some q => .ok q
  | none =>
    match Table.find? name v.aggregations with
    | some a => a.kind.selection name key timeZone
    | none => .error (.unknown name)

/-- What a named query stands for. -/
def meaning (v : Vocabulary) (timeZone : Option String) (name : String) (key : Value) :
    Except NameError Query :=
  (v.definition timeZone name key).bind fun q => q.expandTexts.mapError .text

/-- What a name stands for; other queries stay. -/
def expandName (v : Vocabulary) (timeZone : Option String) : Query → Except Error Query
  | .named name key => (v.meaning timeZone name key).mapError NameError.toError
  | q => .ok q

/-- The query with what they stand for in the place of all names. -/
def expandNames (v : Vocabulary) (timeZone : Option String) (q : Query) : Except Error Query :=
  q.substitute (v.expandName timeZone)

/-- The query that a caller means, in the fields of the records. Texts are expanded first and may
use other names for fields; definitions of names are written in the fields of the records. -/
def query (v : Vocabulary) (timeZone : Option String) (q : Query) : Except Error Query :=
  match q.expandTexts with
  | .error e => .error e
  | .ok q => v.expandNames timeZone (q.rename v.fieldName)

end Vocabulary

end Sift
