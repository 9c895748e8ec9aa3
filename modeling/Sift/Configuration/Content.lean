import Sift.Configuration.Shape

/-!
# The contents of configurations

A content is what a part of a configuration says, before it is known what the part is for. Unlike
the keys of a document, those of a content may be anything, and may occur more than once; whether
they may depends on the shape that is wanted.

## Main definitions

* `Sift.Content`: contents.
* `Sift.Content.toJson?`: the document of a content in a shape.
* `Sift.Content.kindToJson?`: the same for the fields of a kind of aggregation.
-/

set_option autoImplicit false

namespace Sift

/-- What a part of a configuration says. -/
inductive Content where
  | null
  | bool (value : Bool)
  /-- A natural number, which may also be the position of a name among others. -/
  | nat (value : Nat)
  /-- Any other integer, and natural numbers that are no positions. -/
  | int (value : Int)
  | double (value : Double)
  | text (value : String)
  | list (items : List Content)
  | table (entries : List (Content × Content))
deriving Inhabited

namespace Content

mutual

/-- The content of a document, in which no number is a position. -/
def ofJson : Json → Content
  | .null => null
  | .bool b => bool b
  | .int n => int n
  | .double x => double x
  | .str s => text s
  | .arr items => list (ofJsonItems items)
  | .obj members => table (ofJsonMembers members)

/-- The contents of array elements. -/
def ofJsonItems : List Json → List Content
  | [] => []
  | x :: rest => ofJson x :: ofJsonItems rest

/-- The entries of object members. -/
def ofJsonMembers : List (String × Json) → List (Content × Content)
  | [] => []
  | (k, x) :: rest => (text k, ofJson x) :: ofJsonMembers rest

end

/-! ## Names -/

/-- Which of several names a content stands for, by itself or by its position. A text that is none
of them is another name; other contents are no names. -/
def nameIn? (names : List String) : Content → Option (Option String)
  | text s => some (if names.contains s then some s else none)
  | nat n => some names[n]?
  | _ => none

/-- Whether a content is a text. -/
def isText (s : String) : Content → Bool
  | text t => s = t
  | _ => false

/-- The kind that the only entry with the key `type` names. -/
def kind? (kinds : List String) (entries : List (Content × Content)) : Option String :=
  match entries.filter fun e => e.1.isText "type" with
  | [(_, x)] => (nameIn? kinds x).join
  | _ => none

/-- The document of a kind and the other fields. -/
def withKind (kind : String) (fields : Table Json) : Json :=
  .obj (Table.insert "type" (.str kind) fields)

/-! ## Documents -/

mutual

/-- The document of a content in a shape. A table of anything may name a key twice, where the last
entry counts; a record names no field twice, and unknown fields are left out. Where `exact` is
true, a list for a record ends with the last field; otherwise further elements are left out. -/
def toJson? (exact : Bool) : Shape → Content → Option Json
  | .name names, .table [(key, x)] =>
    match (nameIn? names key).join, toJson? exact .any x with
    | some name, some x => some (.obj [(name, x)])
    | _, _ => none
  | .name _, .table _ => none
  | .list item, .list items => (itemsToJson? exact item items).map .arr
  | .table value, .table entries => (tableToJson? exact value [] entries).map .obj
  | .record fields, .list items => (valuesToJson? exact fields items).map .arr
  | .record fields, .table entries => (recordToJson? exact fields [] entries).map .obj
  | .query, .list (x :: items) =>
    match (nameIn? Query.kinds x).join with
    | none => none
    | some kind =>
      (valuesToJson? true (Shape.queryFields kind) items).map fun xs => .arr (.str kind :: xs)
  | .query, .table entries =>
    match kind? Query.kinds entries with
    | none => none
    | some "match_all" => some (withKind "match_all" [])
    | some kind => (recordToJson? true (Shape.queryFields kind) [] entries).map (withKind kind)
  | .aggregation, .table entries =>
    match kind? AggregationKind.names entries with
    | none => none
    | some kind =>
      (recordToJson? true (Shape.aggregationFields ++ Shape.kindFields kind) [] entries).map
        (withKind kind)
  | _, .null => some .null
  | _, .bool b => some (.bool b)
  | _, .nat n => some (.int n)
  | _, .int n => some (.int n)
  | _, .double x => some (.double x)
  | _, .text s => some (.str s)
  | _, .list items => (itemsToJson? exact .any items).map .arr
  | _, .table entries => (tableToJson? exact .any [] entries).map .obj

/-- The documents of the items of a list. -/
def itemsToJson? (exact : Bool) (item : Shape) : List Content → Option (List Json)
  | [] => some []
  | x :: rest =>
    match toJson? exact item x, itemsToJson? exact item rest with
    | some x, some xs => some (x :: xs)
    | _, _ => none

/-- The documents of the values of fields, which are given in the order of the fields. -/
def valuesToJson? (exact : Bool) (fields : List (String × Shape)) :
    List Content → Option (List Json)
  | [] => some []
  | x :: rest =>
    match fields with
    | [] => if exact then none else some []
    | (_, shape) :: fields =>
      match toJson? exact shape x, valuesToJson? exact fields rest with
      | some x, some xs => some (x :: xs)
      | _, _ => none

/-- The members of a table; `acc` holds those of earlier entries. -/
def tableToJson? (exact : Bool) (value : Shape) (acc : Table Json) :
    List (Content × Content) → Option (Table Json)
  | [] => some acc
  | (.text key, x) :: rest =>
    match toJson? exact value x with
    | some x => tableToJson? exact value (Table.insert key x acc) rest
    | none => none
  | _ => none

/-- The members of a record; `acc` holds those of earlier entries. -/
def recordToJson? (exact : Bool) (fields : List (String × Shape)) (acc : Table Json) :
    List (Content × Content) → Option (Table Json)
  | [] => some acc
  | (key, x) :: rest =>
    match nameIn? (fields.map Prod.fst) key with
    | none => none
    | some none => recordToJson? exact fields acc rest
    | some (some name) =>
      if Table.contains name acc then none
      else
        match toJson? exact ((fields.lookup name).getD .any) x with
        | some x => recordToJson? exact fields (Table.insert name x acc) rest
        | none => none

end

/-- The fields of the kind of an aggregation, from the entries besides those of all kinds. -/
def kindToJson? (entries : List (Content × Content)) : Option (Table Json) :=
  match kind? AggregationKind.names entries with
  | none => none
  | some kind =>
    (recordToJson? true (Shape.kindFields kind) [] entries).map fun fields =>
      Table.insert "type" (.str kind) fields

end Content

end Sift
