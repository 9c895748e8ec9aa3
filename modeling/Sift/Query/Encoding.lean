import Sift.Json.Record
import Sift.Query.Basic

/-!
# Queries as JSON documents

A query is a tagged record; its kind decides the other fields. The connectives hold their parts in
a list, leaves name their field. Absent bounds are left out, and a bound that is null is read as
absent.

## Main definitions

* `Sift.Query.toJson`: the document of a query.
* `Sift.Query.ofJson?`: the query of a document.
-/

set_option autoImplicit false

namespace Sift

namespace Bounds

/-- The fields of the bounds that are present. -/
def entries (b : Bounds) : List (String × Option Json) :=
  [("lt", b.lt.map Value.toJson), ("lte", b.lte.map Value.toJson),
    ("gt", b.gt.map Value.toJson), ("gte", b.gte.map Value.toJson)]

/-- Reads a value. -/
def bound? (x : Json) : Option Value := some (Value.ofJson x)

/-- The bounds among the fields of a record. -/
def ofFields? (t : Table Json) : Option Bounds :=
  match Json.optional "lt" bound? t, Json.optional "lte" bound? t, Json.optional "gt" bound? t,
    Json.optional "gte" bound? t with
  | some lt, some lte, some gt, some gte => some ⟨lt, lte, gt, gte⟩
  | _, _, _, _ => none

end Bounds

namespace Condition

/-- The fields of a condition. -/
def entries : Condition → List (String × Option Json)
  | term v => [("value", some v.toJson)]
  | terms vs => [("values", some (.arr (vs.map Value.toJson)))]
  | phrase tokens => [("tokens", some (.arr (tokens.map .str)))]
  | startsWith s | wildcard s | regex s => [("value", some (.str s))]
  | range b => b.entries
  | dateRange b tz => b.entries ++ [("time_zone", tz.map .str)]

/-- The names of the fields of a leaf, in their order. -/
def fieldNames : String → List String
  | "terms" => ["field", "values"]
  | "phrase" => ["field", "tokens"]
  | "range" => ["field", "lt", "lte", "gt", "gte"]
  | "date_range" => ["field", "lt", "lte", "gt", "gte", "time_zone"]
  | _ => ["field", "value"]

/-- The condition of a kind among the fields of a record. -/
def ofFields? (kind : String) (t : Table Json) : Option Condition :=
  match kind with
  | "term" => (Json.required "value" (fun x => some (Value.ofJson x)) t).map term
  | "terms" => (Json.required "values" (Json.list? fun x => some (Value.ofJson x)) t).map terms
  | "phrase" => (Json.required "tokens" (Json.list? Json.text?) t).map phrase
  | "prefix" => (Json.required "value" Json.text? t).map startsWith
  | "wildcard" => (Json.required "value" Json.text? t).map wildcard
  | "regex" => (Json.required "value" Json.text? t).map regex
  | "range" => (Bounds.ofFields? t).map range
  | "date_range" =>
    match Bounds.ofFields? t, Json.optional "time_zone" Json.text? t with
    | some b, some tz => some (dateRange b tz)
    | _, _ => none
  | _ => none

end Condition

namespace Query

/-- The kinds of queries, in the order of their numbers. -/
def kinds : List String :=
  ["and", "or", "not", "term", "terms", "phrase", "prefix", "wildcard", "regex", "range",
    "date_range", "lucene", "named", "match_all"]

mutual

/-- The document of a query. -/
def toJson : Query → Json
  | and of => .record [("type", some (.str "and")), ("of", some (.arr (toJsonList of)))]
  | or of => .record [("type", some (.str "or")), ("of", some (.arr (toJsonList of)))]
  | not of => .record [("type", some (.str "not")), ("of", some (.arr (toJsonList of)))]
  | leaf f c => .record (("type", some (.str c.kind)) :: ("field", some (.str f)) :: c.entries)
  | text s d =>
    .record [("type", some (.str "lucene")), ("query", some (.str s)),
      ("default_field", d.map .str)]
  | named n v =>
    .record [("type", some (.str "named")), ("name", some (.str n)), ("value", some v.toJson)]
  | matchAll => .record [("type", some (.str "match_all"))]

/-- The documents of the parts of a connective. -/
def toJsonList : List Query → List Json
  | [] => []
  | q :: rest => q.toJson :: toJsonList rest

end

/-- A query without parts, of a kind, from the rest of its record. -/
def flat? (kind : String) (rest : Json) : Option Query :=
  match kind with
  | "lucene" =>
    (Json.fields? ["query", "default_field"] 0 rest).bind fun t =>
      match Json.required "query" Json.text? t, Json.optional "default_field" Json.text? t with
      | some s, some d => some (text s d)
      | _, _ => none
  | "named" =>
    (Json.fields? ["name", "value"] 0 rest).bind fun t =>
      match Json.required "name" Json.text? t,
        Json.required "value" (fun x => some (Value.ofJson x)) t with
      | some n, some v => some (named n v)
      | _, _ => none
  | "match_all" => (Json.fields? [] 0 rest).map fun _ => matchAll
  | kind =>
    (Json.fields? (Condition.fieldNames kind) 0 rest).bind fun t =>
      match Json.required "field" Json.text? t, Condition.ofFields? kind t with
      | some f, some c => some (leaf f c)
      | _, _ => none

/-- A query of a kind from its parts, if it has any, or from the rest of its record. -/
def assemble? (kind : String) (parts : Option (List Query)) (rest : Json) : Option Query :=
  match kind with
  | "and" => parts.map and
  | "or" => parts.map or
  | "not" => parts.map not
  | kind => flat? kind rest

mutual

/-- The query of a document. -/
def ofJson? (nested : Bool) : Json → Option Query
  | .obj members =>
    match (Table.find? "type" members).bind (Json.tag? kinds nested) with
    | some kind => assemble? kind (partsIn? members) (.obj members)
    | none => none
  | .arr (tag :: rest) =>
    match Json.tag? kinds nested tag with
    | some kind => assemble? kind (onlyParts? rest) (.arr rest)
    | none => none
  | _ => none

/-- The parts among the members of an object. -/
def partsIn? : List (String × Json) → Option (List Query)
  | [] => none
  | (k, x) :: rest => if k = "of" then parts? x else partsIn? rest

/-- The parts of a connective, where they are all that follows the tag. -/
def onlyParts? : List Json → Option (List Query)
  | [x] => parts? x
  | _ => none

/-- The parts of a connective. -/
def parts? : Json → Option (List Query)
  | .arr items => ofJsonList? items
  | _ => none

/-- The queries of list elements. -/
def ofJsonList? : List Json → Option (List Query)
  | [] => some []
  | x :: rest =>
    match ofJson? true x, ofJsonList? rest with
    | some q, some qs => some (q :: qs)
    | _, _ => none

end

/-- A list of queries is written one by one. -/
@[simp] theorem toJsonList_eq_map (qs : List Query) : toJsonList qs = qs.map toJson := by
  induction qs with
  | nil => rfl
  | cons q rest ih => simp [toJsonList, ih]

/-- A list of queries is read one by one. -/
@[simp] theorem ofJsonList?_eq_readAll (xs : List Json) :
    ofJsonList? xs = Json.readAll (ofJson? true) xs := by
  induction xs with
  | nil => rfl
  | cons x rest ih =>
    simp only [ofJsonList?, Json.readAll, ih]
    cases ofJson? true x <;> cases Json.readAll (ofJson? true) rest <;> rfl

end Query

end Sift
