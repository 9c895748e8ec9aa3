import Sift.Json.Basic
import Sift.Table

/-!
# Tables in TOML

The tables of a TOML text are put together from headers and from keys with dots. A table may be
opened by one header only; tables on the way to it come into being by themselves and may still be
opened later. Keys with dots open tables of their own, which no header may open again.

## Main definitions

* `Sift.TomlNode`: what a key holds.
* `Sift.TomlNode.assign`: stores a value under a key with dots.
* `Sift.TomlNode.open?`, `Sift.TomlNode.append?`: opens a table, or a further one of a list.
-/

set_option autoImplicit false

namespace Sift

/-- How a table came into being. -/
inductive TomlOrigin where
  /-- By its own header. -/
  | header
  /-- By a header that leads through it. -/
  | passage
  /-- By a key with dots. -/
  | dotted
deriving DecidableEq, Repr

/-- What a key holds. -/
inductive TomlNode where
  /-- A value, which nothing can be added to. -/
  | value (x : Json)
  /-- A table. -/
  | table (origin : TomlOrigin) (entries : List (String × TomlNode))
  /-- A list of tables, the last one first. -/
  | tables (items : List (List (String × TomlNode)))

namespace TomlNode

/-- Stores a value under a key with dots. No key may be assigned twice. -/
def assign (x : Json) : List String → Table TomlNode → Option (Table TomlNode)
  | [], _ => none
  | [k], entries =>
    if entries.contains k then none else some (entries.insert k (value x))
  | k :: rest, entries =>
    let passes := 1 < rest.length
    match entries.find? k with
    | none => (assign x rest []).map fun inner => entries.insert k (table .dotted inner)
    | some (table .dotted inner) =>
      (assign x rest inner).map fun inner => entries.insert k (table .dotted inner)
    | some (table .passage inner) =>
      if passes then
        (assign x rest inner).map fun inner => entries.insert k (table .passage inner)
      else none
    | some (tables (inner :: before)) =>
      if passes then
        (assign x rest inner).map fun inner => entries.insert k (tables (inner :: before))
      else none
    | some _ => none

/-- Fills the table that a header leads to. The function `last` acts on what the last key of the
header holds. -/
def follow (last : Option TomlNode → Option TomlNode) :
    List String → Table TomlNode → Option (Table TomlNode)
  | [], _ => none
  | [k], entries => (last (entries.find? k)).map fun node => entries.insert k node
  | k :: rest, entries =>
    match entries.find? k with
    | none => (follow last rest []).map fun inner => entries.insert k (table .passage inner)
    | some (table origin inner) =>
      (follow last rest inner).map fun inner => entries.insert k (table origin inner)
    | some (tables (inner :: before)) =>
      (follow last rest inner).map fun inner => entries.insert k (tables (inner :: before))
    | some _ => none

/-- Opens the table of a header and fills it. -/
def open? (fill : Table TomlNode → Option (Table TomlNode)) (path : List String)
    (entries : Table TomlNode) : Option (Table TomlNode) :=
  follow (fun
    | none => (fill []).map (table .header)
    | some (table .passage inner) => (fill inner).map (table .header)
    | some _ => none) path entries

/-- Opens a further table of the list of a header and fills it. -/
def append? (fill : Table TomlNode → Option (Table TomlNode)) (path : List String)
    (entries : Table TomlNode) : Option (Table TomlNode) :=
  follow (fun
    | none => (fill []).map fun inner => tables [inner]
    | some (tables before) => (fill []).map fun inner => tables (inner :: before)
    | some _ => none) path entries

mutual

/-- The document of what a key holds. -/
def toJson : TomlNode → Json
  | value x => x
  | table _ entries => .obj (toJsonEntries entries)
  | tables items => .arr (toJsonTables items).reverse

/-- The members of a table. -/
def toJsonEntries : List (String × TomlNode) → List (String × Json)
  | [] => []
  | (k, node) :: rest => (k, toJson node) :: toJsonEntries rest

/-- The documents of several tables. -/
def toJsonTables : List (List (String × TomlNode)) → List Json
  | [] => []
  | entries :: rest => .obj (toJsonEntries entries) :: toJsonTables rest

end

end TomlNode

end Sift
