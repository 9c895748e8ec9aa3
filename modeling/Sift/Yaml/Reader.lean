import Sift.Yaml.Document
import Sift.Yaml.Resolution

/-!
# Reading configurations in YAML

The nodes of a document are read in the shape that is wanted. Queries, and the fields of a kind of
aggregation, can be read only when all of them are known; they become contents first.

References are followed when their nodes are read, so that a node with a name is read again for
each reference. Their number is limited by the size of the document, and so is the depth of the
collections that are read.

## Main definitions

* `Sift.Yaml.readContentOf`: the content of a node.
* `Sift.Yaml.readShape`: the document of a node in a shape.
* `Sift.Yaml.read?`: the document of a text in a shape.
-/

set_option autoImplicit false

namespace Sift.Yaml

/-- Reads nodes, with the number of references that may still be followed as the state. -/
abbrev Visit (α : Type) := StateT Nat Option α

/-- The node that a node is or refers to. -/
def follow (names : Names) : Node → Visit Node
  | .reference number => fun left =>
    match left with
    | 0 => none
    | left + 1 => (names.find? number).map fun node => (node, left)
  | node => return node

/-- A result that needs no reading. -/
def give {α : Type} (x : Option α) : Visit α := fun left => x.map fun x => (x, left)

/-- The text of a scalar, whatever its style and tag. -/
def readText (names : Names) (node : Node) : Visit String := do
  match ← follow names node with
  | .scalar text _ _ => return text
  | _ => failure

/-- The content of a node with at most `depth` collections around each other. Nodes with private
tags have none. -/
def readContentOf (names : Names) : Nat → Node → Visit Content
  | depth, node => do
    match depth, ← follow names node with
    | _, .scalar text style tag => give (Resolution.ofScalar? text style tag)
    | depth + 1, .sequence items tag =>
      if Resolution.isPrivate tag then failure
      else return .list (← items.mapM (readContentOf names depth))
    | depth + 1, .mapping entries tag =>
      if Resolution.isPrivate tag then failure
      else
        return .table (← entries.mapM fun e =>
          return (← readContentOf names depth e.1, ← readContentOf names depth e.2))
    | _, _ => failure

/-- The document of a scalar in a shape. An empty place is an empty collection where one is
wanted. -/
def scalarToJson? (shape : Shape) (text : String) (style : Style) (tag : Option String) :
    Option Json :=
  let isEmpty := text.isEmpty && style = .plain
  match shape with
  | .text => some (.str text)
  | .optionalText =>
    (Resolution.isAbsent? text style tag).map fun absent => if absent then .null else .str text
  | .optionalCount =>
    (Resolution.isAbsent? text style tag).bind fun absent =>
      if absent then some .null
      else (Resolution.count? text style tag).map fun n => .int n
  | .list _ => if isEmpty then some (.arr []) else none
  | .table _ | .record _ | .aggregation => if isEmpty then some (.obj []) else none
  | .query => none
  | .any | .name _ => (Resolution.ofScalar? text style tag).bind (Content.toJson? true .any)

/-- The query of a sequence: its kind, and the values of its fields. -/
def readQueryItems (names : Names) (depth : Nat) : List Node → Visit Json
  | [] => failure
  | kind :: items => do
    let kind ← readText names kind
    let items ← items.mapM (readContentOf names depth)
    give (Content.toJson? true .query (.list (.text kind :: items)))

/-- The query of a mapping. The value of the kind is a text in any case. -/
def readQueryEntries (names : Names) (depth : Nat) (entries : List (Node × Node)) :
    Visit Json := do
  let entries ← entries.mapM fun e => do
    let key ← readContentOf names depth e.1
    if key.isText "type" then return (key, .text (← readText names e.2))
    else return (key, ← readContentOf names depth e.2)
  give (Content.toJson? true .query (.table entries))

/-- The document of an aggregation from its entries. Those of all kinds are documents already, and
none of them occurs twice; the others are contents. -/
def joinAggregation? (parts : List (String × (Json ⊕ Content))) : Option Json :=
  let known := parts.filterMap fun e => e.2.getLeft?.map fun x => (e.1, x)
  let others := parts.filterMap fun e => e.2.getRight?.map fun x => (Content.text e.1, x)
  let fields := Table.ofList known
  if fields.length < known.length then none
  else (Content.kindToJson? others).map fun kind => .obj (Table.union fields kind)

/-- The document of a node in a shape, with at most `depth` collections around each other. -/
def readShape (names : Names) : Nat → Shape → Node → Visit Json
  | depth, shape, node => do
    match depth, ← follow names node with
    | _, .scalar text style tag => give (scalarToJson? shape text style tag)
    | depth + 1, .sequence items tag =>
      match shape with
      | .list item => return .arr (← items.mapM (readShape names depth item))
      | .record fields =>
        if fields.length < items.length then failure
        else
          return .arr (← (fields.zip items).mapM fun e => readShape names depth e.1.2 e.2)
      | .query =>
        if Resolution.isPrivate tag then failure else readQueryItems names depth items
      | .any =>
        if Resolution.isPrivate tag then failure
        else return .arr (← items.mapM (readShape names depth .any))
      | _ => failure
    | depth + 1, .mapping entries tag =>
      let member (value : Shape) (acc : Table Json) (e : Node × Node) : Visit (Table Json) := do
        let key ← readText names e.1
        return Table.insert key (← readShape names depth value e.2) acc
      let field (fields : List (String × Shape)) (acc : Table Json) (e : Node × Node) :
          Visit (Table Json) := do
        let key ← readText names e.1
        match fields.lookup key with
        | none => return acc
        | some value =>
          if Table.contains key acc then failure
          else return Table.insert key (← readShape names depth value e.2) acc
      match shape with
      | .table value => return .obj (← entries.foldlM (member value) [])
      | .record fields => return .obj (← entries.foldlM (field fields) [])
      | .query =>
        if Resolution.isPrivate tag then failure else readQueryEntries names depth entries
      | .aggregation =>
        let fields := Shape.aggregationFields
        let parts ← entries.mapM fun e => do
          let key ← readText names e.1
          match fields.lookup key with
          | some value => return (key, Sum.inl (← readShape names depth value e.2))
          | none => return (key, Sum.inr (← readContentOf names depth e.2))
        give (joinAggregation? parts)
      | .any =>
        if Resolution.isPrivate tag then failure
        else return .obj (← entries.foldlM (member .any) [])
      | _ => failure
    | _, _ => failure

/-- The document of a text in a shape. A text without a document is like an empty place. -/
def read? (shape : Shape) (text : String) : Option Json :=
  match Document.read? text with
  | none => none
  | some d =>
    let root := d.root.getD .empty
    ((readShape d.names 128 shape root).run (100 * d.size)).map Prod.fst

end Sift.Yaml
