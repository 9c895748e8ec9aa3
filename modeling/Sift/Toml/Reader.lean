import Sift.Toml.Node
import Sift.Toml.Scalar

/-!
# Reading TOML

A text is a list of lines. A line assigns a value to a key, opens a table for the lines after it,
or is empty. Values may contain values up to a fixed depth, which also limits the number of parts
of a key. The bound `fuel` on the number of steps is the length of the text, so that it never runs
out.

## Main definitions

* `Sift.Toml.readValue`: a value.
* `Sift.Toml.sections?`: the lines of a text, by the table that they belong to.
* `Sift.Toml.read?`: the document that a text spells.
-/

set_option autoImplicit false

namespace Sift.Toml

/-! ## Lines -/

/-- Drops a comment. -/
def comment? : List Char → Option (List Char)
  | '#' :: rest =>
    let tail := rest.dropWhile isPrintable
    if tail.isEmpty || (newline? tail).isSome then some tail else none
  | cs => some cs

/-- Drops blanks and a comment up to the end of the line, and that end itself. -/
def lineEnd? (cs : List Char) : Option (List Char) :=
  match comment? (cs.dropWhile isBlank) with
  | none => none
  | some [] => some []
  | some tail => newline? tail

/-- Drops blanks, comments and ends of lines. -/
def filler? : Nat → List Char → Option (List Char)
  | 0, cs => some cs
  | fuel + 1, cs =>
    match cs.dropWhile isBlank with
    | '#' :: rest => (comment? ('#' :: rest)).bind (filler? fuel)
    | tail =>
      match newline? tail with
      | some rest => filler? fuel rest
      | none => some tail

/-- How many values contain each other at most, and how many parts a key has at most. -/
def depthLimit : Nat := 79

/-! ## Keys -/

/-- Whether a character may stand in a key without quotes. -/
def isKeyChar (c : Char) : Bool :=
  ('a' ≤ c && c ≤ 'z') || ('A' ≤ c && c ≤ 'Z') || Numeral.isDigit c || c = '_' || c = '-'

/-- A key without dots. -/
def simpleKey? (cs : List Char) : Option (String × List Char) :=
  match cs with
  | '"' :: _ | '\'' :: _ => lineString? cs
  | cs =>
    let name := cs.takeWhile isKeyChar
    if name.isEmpty then none else some (String.ofList name, cs.dropWhile isKeyChar)

/-- A key of at most so many parts, which are separated by dots; blanks may stand around the
parts. -/
def keyOfParts? : Nat → List Char → Option (List String × List Char)
  | 0, _ => none
  | parts + 1, cs =>
    match simpleKey? (cs.dropWhile isBlank) with
    | none => none
    | some (name, tail) =>
      match tail.dropWhile isBlank with
      | '.' :: rest => (keyOfParts? parts rest).map fun (names, tail) => (name :: names, tail)
      | tail => some ([name], tail)

/-- A key. -/
def key? (cs : List Char) : Option (List String × List Char) := keyOfParts? depthLimit cs

/-! ## Values -/

/-- A value that contains no other values. -/
def scalar? (cs : List Char) : Option (Json × List Char) :=
  match cs with
  | '"' :: _ | '\'' :: _ => (string? cs).map fun (s, tail) => (.str s, tail)
  | 't' :: rest => (Text.dropFront? ['r', 'u', 'e'] rest).map fun tail => (.bool true, tail)
  | 'f' :: rest =>
    (Text.dropFront? ['a', 'l', 's', 'e'] rest).map fun tail => (.bool false, tail)
  | cs => if startsMoment cs then moment? cs else number? cs

mutual

/-- A value in which at most `depth` values contain each other. -/
def readValue : Nat → Nat → List Char → Option (Json × List Char)
  | 0, _, _ => none
  | fuel + 1, depth, cs =>
    match depth, cs with
    | 0, '[' :: _ => none
    | 0, '\x7b' :: _ => none
    | depth + 1, '[' :: rest =>
      match filler? rest.length rest with
      | some (']' :: tail) => some (.arr [], tail)
      | some tail => readItems fuel depth [] tail
      | none => none
    | depth + 1, '\x7b' :: rest =>
      match rest.dropWhile isBlank with
      | '\x7d' :: tail => some (.obj [], tail)
      | tail => readPairs fuel depth [] tail
    | _, cs => scalar? cs

/-- The elements of a list up to its closing bracket, before which a comma may stand; `acc` holds
those read so far, last one first. -/
def readItems : Nat → Nat → List Json → List Char → Option (Json × List Char)
  | 0, _, _, _ => none
  | fuel + 1, depth, acc, cs =>
    match readValue fuel depth cs with
    | none => none
    | some (x, tail) =>
      match filler? tail.length tail with
      | some (']' :: tail) => some (.arr (x :: acc).reverse, tail)
      | some (',' :: tail) =>
        match filler? tail.length tail with
        | some (']' :: tail) => some (.arr (x :: acc).reverse, tail)
        | some tail => readItems fuel depth (x :: acc) tail
        | none => none
      | _ => none

/-- The assignments of a table in braces, all in one line; `acc` holds the table so far. -/
def readPairs : Nat → Nat → Table TomlNode → List Char → Option (Json × List Char)
  | 0, _, _, _ => none
  | fuel + 1, depth, acc, cs =>
    match key? cs with
    | some (names, '=' :: tail) =>
      match readValue fuel depth (tail.dropWhile isBlank) with
      | none => none
      | some (x, tail) =>
        match TomlNode.assign x names acc with
        | none => none
        | some acc =>
          match tail.dropWhile isBlank with
          | ',' :: tail => readPairs fuel depth acc tail
          | '\x7d' :: tail => some (.obj (TomlNode.toJsonEntries acc), tail)
          | _ => none
    | _ => none

end

/-! ## Documents -/

/-- Lines that belong to one table: the header that opens it, and the assignments under it. -/
structure Section where
  /-- The key of the table; it is empty for lines before the first header. -/
  path : List String
  /-- Whether the table is a further one of a list. -/
  appends : Bool
  /-- The keys and values, in their order. -/
  assignments : List (List String × Json)

/-- A header after its opening bracket. -/
def header? (cs : List Char) : Option (Section × List Char) :=
  match cs with
  | '[' :: rest =>
    match key? rest with
    | some (path, ']' :: ']' :: tail) => (lineEnd? tail).map fun tail => (⟨path, true, []⟩, tail)
    | _ => none
  | cs =>
    match key? cs with
    | some (path, ']' :: tail) => (lineEnd? tail).map fun tail => (⟨path, false, []⟩, tail)
    | _ => none

/-- An assignment. -/
def assignment? (cs : List Char) : Option ((List String × Json) × List Char) :=
  match key? cs with
  | some (path, '=' :: tail) =>
    let tail := tail.dropWhile isBlank
    match readValue (tail.length + 1) depthLimit tail with
    | some (x, tail) => (lineEnd? tail).map fun tail => ((path, x), tail)
    | none => none
  | _ => none

/-- The lines of a text by the table that they belong to. The section of the line before is
`current`. -/
def sections? : Nat → Section → List Char → Option (List Section)
  | 0, _, _ => none
  | fuel + 1, current, cs =>
    match filler? cs.length cs with
    | none => none
    | some [] => some [current]
    | some ('[' :: rest) =>
      match header? rest with
      | some (next, tail) => (sections? fuel next tail).map (current :: ·)
      | none => none
    | some cs =>
      match assignment? cs with
      | some (a, tail) =>
        sections? fuel { current with assignments := current.assignments ++ [a] } tail
      | none => none

/-- Puts the assignments of a section into a table. -/
def Section.fill (s : Section) (entries : Table TomlNode) : Option (Table TomlNode) :=
  s.assignments.foldlM (fun t a => TomlNode.assign a.2 a.1 t) entries

/-- Adds a section to the tables of a text. -/
def Section.add (s : Section) (root : Table TomlNode) : Option (Table TomlNode) :=
  if s.path.isEmpty then s.fill root
  else if s.appends then TomlNode.append? s.fill s.path root
  else TomlNode.open? s.fill s.path root

/-- The text without the mark of its encoding. -/
def dropMark : List Char → List Char
  | c :: rest => if c.toNat = 0xFEFF then rest else c :: rest
  | [] => []

/-- The document that a text spells. -/
def read? (text : String) : Option Json :=
  let cs := dropMark text.toList
  match sections? (cs.length + 1) ⟨[], false, []⟩ cs with
  | some sections =>
    (sections.foldlM (fun root (s : Section) => s.add root) []).map fun root =>
      .obj (TomlNode.toJsonEntries root)
  | none => none

end Sift.Toml
