import Sift.Yaml.Layout
import Sift.Yaml.Node

/-!
# Reading YAML documents

The tokens of a text are put together to nodes. A text holds at most one document.

## Main definitions

* `Sift.Yaml.Handles`: what the handles of tags stand for.
* `Sift.Yaml.readNode`: a node and the tokens after it.
* `Sift.Yaml.Document.read?`: the document that a text spells.
-/

set_option autoImplicit false

namespace Sift.Yaml

/-! ## Directives -/

/-- What the handles of tags stand for. -/
abbrev Handles := List (String × String)

/-- What handles stand for where no directive says otherwise. -/
def Handles.standard : Handles := [("!", "!"), ("!!", "tag:yaml.org,2002:")]

/-- The handles that directives define, and the tokens after the directives. A version may be given
once and a handle defined once; versions other than 1.1 and 1.2 are refused. -/
def directives? (versioned : Bool) (acc : Handles) : List Token → Option (Handles × List Token)
  | .version major minor :: rest =>
    if versioned ∨ major ≠ 1 ∨ (minor ≠ 1 ∧ minor ≠ 2) then none else directives? true acc rest
  | .handle name meaning :: rest =>
    if (acc.lookup name).isSome then none else directives? versioned (acc ++ [(name, meaning)]) rest
  | rest => some (acc, rest)

/-! ## Nodes -/

/-- What has been read of a document. -/
structure ReaderState where
  /-- The tokens that are left. -/
  tokens : List Token
  /-- What the handles of tags stand for. -/
  handles : Handles
  /-- The names so far. -/
  names : Names := {}
  /-- The number of parts so far. -/
  size : Nat := 0

/-- Reads a part of a document. -/
abbrev Reader (α : Type) := StateT ReaderState Option α

/-- The next token. -/
def peek : Reader (Option Token) := return (← get).tokens.head?

/-- Drops the next token. -/
def advance : Reader Unit := modify fun s => { s with tokens := s.tokens.tail }

/-- Counts parts of the document. -/
def count (n : Nat) : Reader Unit := modify fun s => { s with size := s.size + n }

/-- The scalar of an empty place. -/
def emptyNode : Reader Node := do
  count 1
  return .empty

/-- The tag of a handle and what follows the handle. A tag without a handle stands for itself. -/
def resolveTag (handle suffix : String) : Reader String := fun s =>
  if handle.isEmpty then some (suffix, s)
  else (s.handles.lookup handle).map fun meaning => (meaning ++ suffix, s)

/-- The tag before a node, if there is one. -/
def readTag : Reader (Option String) := do
  match ← peek with
  | some (.tag handle suffix) =>
    advance
    return some (← resolveTag handle suffix)
  | _ => return none

/-- The name before a node, if there is one. -/
def readAnchor : Reader (Option String) := do
  match ← peek with
  | some (.anchor name) =>
    advance
    return some name
  | _ => return none

/-- The name and the tag before a node, in any order. -/
def readProperties : Reader (Option String × Option String) := do
  match ← readAnchor with
  | some name => return (some name, ← readTag)
  | none =>
    let tag ← readTag
    return (← readAnchor, tag)

/-- Reads the node with a name, so that the name can be used within it. -/
def named (name : Option String) (read : Reader Node) : Reader Node := do
  let start := (← get).size
  match name with
  | none => read
  | some name =>
    modify fun s => { s with names := s.names.add name start }
    let node ← read
    modify fun s => { s with names := s.names.complete start node }
    return node

/-- The scalar of an empty place that may hold nothing but a name or a tag. -/
def absent (optional : Bool) (tag : Option String) : Reader Node := do
  if optional then
    count 1
    return .scalar "" .plain tag
  else failure

/-- The node of a name that was given before. -/
def dereference (name : String) : Reader Node := do
  count 1
  match Table.find? name (← get).names.numbers with
  | some number => return .reference number
  | none => failure

/-- The places where a node may stand. -/
inductive Site where
  /-- Within brackets or braces. -/
  | flow
  /-- On lines of its own. -/
  | block
  /-- In an entry of a mapping on lines of its own, where the items of a sequence may start in the
  column of the mapping. -/
  | entry
deriving DecidableEq, Repr

/-- Whether an entry of a mapping on lines of its own ends at a token. -/
def endsEntry : Option Token → Bool
  | some .key | some .value | some .blockEnd => true
  | _ => false

mutual

/-- A node. -/
def readNode : Nat → Site → Reader Node
  | 0, _ => failure
  | fuel + 1, site => do
    match ← peek with
    | some (.reference name) =>
      advance
      dereference name
    | _ =>
      let (name, tag) ← readProperties
      named name (readBareNode fuel site (name.isSome || tag.isSome) tag)

/-- A node behind its name and tag. Where there is one of these, the node may be empty. -/
def readBareNode : Nat → Site → Bool → Option String → Reader Node
  | 0, _, _, _ => failure
  | fuel + 1, site, optional, tag => do
    match ← peek with
    | some (.scalar text style) =>
      advance
      count 1
      return .scalar text style tag
    | some .openBracket =>
      advance
      count 2
      return .sequence (← readFlowItems fuel true) tag
    | some .openBrace =>
      advance
      count 2
      return .mapping (← readFlowEntries fuel true) tag
    | some .item =>
      if site = .entry then
        count 2
        return .sequence (← readLevelItems fuel) tag
      else absent optional tag
    | some .blockSequence =>
      if site = .flow then absent optional tag
      else
        advance
        count 2
        return .sequence (← readItems fuel) tag
    | some .blockMapping =>
      if site = .flow then absent optional tag
      else
        advance
        count 2
        return .mapping (← readEntries fuel) tag
    | _ => absent optional tag

/-- The items of a sequence on lines of its own, up to its end. -/
def readItems : Nat → Reader (List Node)
  | 0 => failure
  | fuel + 1 => do
    match ← peek with
    | some .item =>
      advance
      let node ← match ← peek with
        | some .item | some .blockEnd => emptyNode
        | _ => readNode fuel .block
      return node :: (← readItems fuel)
    | some .blockEnd =>
      advance
      return []
    | _ => failure

/-- The items of a sequence in the column of the mapping around it. -/
def readLevelItems : Nat → Reader (List Node)
  | 0 => failure
  | fuel + 1 => do
    match ← peek with
    | some .item =>
      advance
      let next ← peek
      let node ← if next = some .item ∨ endsEntry next then emptyNode else readNode fuel .block
      return node :: (← readLevelItems fuel)
    | _ => return []

/-- The entries of a mapping on lines of its own, up to its end. -/
def readEntries : Nat → Reader (List (Node × Node))
  | 0 => failure
  | fuel + 1 => do
    match ← peek with
    | some .key =>
      advance
      let key ← readPart fuel
      let value ← match ← peek with
        | some .value =>
          advance
          readPart fuel
        | _ => emptyNode
      return (key, value) :: (← readEntries fuel)
    | some .blockEnd =>
      advance
      return []
    | _ => failure

/-- A key or value behind its mark, which may be left out. -/
def readPart : Nat → Reader Node
  | 0 => failure
  | fuel + 1 => do
    if endsEntry (← peek) then emptyNode else readNode fuel .entry

/-- The items of a sequence in brackets up to the closing one. Before all items but the first
stands a comma, and one may stand behind the last item. An item with a key mark is a mapping of one
entry. -/
def readFlowItems : Nat → Bool → Reader (List Node)
  | 0, _ => failure
  | fuel + 1, first => do
    match ← peek with
    | some .closeBracket =>
      advance
      return []
    | next =>
      if !first then
        if next = some .comma then advance else failure
      match ← peek with
      | some .closeBracket =>
        advance
        return []
      | some .key =>
        advance
        count 2
        let entry ← readPair fuel
        return .mapping [entry] none :: (← readFlowItems fuel false)
      | _ =>
        let node ← readNode fuel .flow
        return node :: (← readFlowItems fuel false)

/-- The entry of a mapping without braces. Where its key is left out, the token in the place of the
key is dropped. -/
def readPair : Nat → Reader (Node × Node)
  | 0 => failure
  | fuel + 1 => do
    let key ← match ← peek with
      | some .value | some .comma | some .closeBracket =>
        advance
        emptyNode
      | _ => readNode fuel .flow
    let value ← match ← peek with
      | some .value =>
        advance
        match ← peek with
        | some .comma | some .closeBracket => emptyNode
        | _ => readNode fuel .flow
      | _ => emptyNode
    return (key, value)

/-- The entries of a mapping in braces up to the closing one. Before all entries but the first
stands a comma, and one may stand behind the last entry. A key without a mark has no value. -/
def readFlowEntries : Nat → Bool → Reader (List (Node × Node))
  | 0, _ => failure
  | fuel + 1, first => do
    match ← peek with
    | some .closeBrace =>
      advance
      return []
    | next =>
      if !first then
        if next = some .comma then advance else failure
      match ← peek with
      | some .closeBrace =>
        advance
        return []
      | some .key =>
        advance
        let key ← match ← peek with
          | some .value | some .comma | some .closeBrace => emptyNode
          | _ => readNode fuel .flow
        let value ← match ← peek with
          | some .value =>
            advance
            match ← peek with
            | some .comma | some .closeBrace => emptyNode
            | _ => readNode fuel .flow
          | _ => emptyNode
        return (key, value) :: (← readFlowEntries fuel false)
      | _ =>
        let key ← readNode fuel .flow
        let value ← emptyNode
        return (key, value) :: (← readFlowEntries fuel false)

end

/-! ## Documents -/

/-- Whether a document ends at a token. -/
def endsDocument : Option Token → Bool
  | none | some .documentStart | some .documentEnd | some (.version ..) | some (.handle ..) => true
  | _ => false

/-- Reads the node of a document behind the mark at its start, if there is one. -/
def readRoot (fuel : Nat) : Reader Node := do
  if endsDocument (← peek) then emptyNode else readNode fuel .block

/-- The document that tokens spell. Directives belong to a document whose start is marked. Nothing
but marks of its end may follow a document. -/
def Document.ofTokens? (tokens : List Token) : Option Document :=
  match directives? false [] tokens with
  | none => none
  | some (handles, rest) =>
    let body (read : Reader Node) (tokens : List Token) : Option Document :=
      let standard := Handles.standard
      match read.run { tokens := tokens, handles := handles ++ standard } with
      | none => none
      | some (node, s) =>
        if s.tokens.all (· = .documentEnd) then some ⟨some node, s.names, s.size⟩ else none
    let fuel := 4 * tokens.length + 4
    match rest with
    | .documentStart :: rest => body (readRoot fuel) rest
    | rest =>
      if tokens.isEmpty then some ⟨none, {}, 0⟩
      else if rest.length < tokens.length then none
      else body (readNode fuel .block) rest

/-- The document that a text spells. -/
def Document.read? (text : String) : Option Document :=
  (tokens? text.toList).bind Document.ofTokens?

end Sift.Yaml
