import Sift.Yaml.Scalar
import Sift.Yaml.Tag

/-!
# The layout of YAML texts

A block ends where a line starts to the left of it. Most keys stand before their colon without a
mark of their own, so that only the colon shows that a mapping starts at the key, and that the node
before the colon is one. Such a key stands in one line with its colon and has at most 1024
characters.

## Main definitions

* `Sift.Yaml.Layout`: what has been read of a text.
* `Sift.Yaml.Layout.next?`: reads one token, and the starts and ends of blocks before it.
* `Sift.Yaml.tokens?`: the tokens of a text.
-/

set_option autoImplicit false

namespace Sift.Yaml

/-- A place where a key without a mark may start. -/
structure KeyPlace where
  /-- The place. -/
  start : Cursor
  /-- How many tokens come before it. -/
  before : Nat
  /-- Whether nothing but a key can stand there. -/
  required : Bool

/-- What has been read of a text. -/
structure Layout where
  /-- The place up to which the text is read. -/
  cursor : Cursor
  /-- The tokens, last one first. -/
  tokens : List Token := []
  /-- The column of the block, which is -1 outside of all blocks. -/
  indent : Int := -1
  /-- The columns of the blocks around it, innermost first. -/
  outer : List Int := []
  /-- Whether a key without a mark may start at the next token. -/
  keyAllowed : Bool := true
  /-- Where the key before the next colon may start. -/
  key : Option KeyPlace := none
  /-- The same for the collections in brackets and braces around the place and for the block around
  them, innermost first. -/
  outerKeys : List (Option KeyPlace) := []

namespace Layout

/-- Whether the place is inside of brackets or braces. -/
def inFlow (s : Layout) : Bool := !s.outerKeys.isEmpty

/-- Adds a token. -/
def push (t : Token) (s : Layout) : Layout := { s with tokens := t :: s.tokens }

/-- Adds a token behind the first so many ones. -/
def insert (before : Nat) (t : Token) (s : Layout) : Layout :=
  let later := s.tokens.length - before
  { s with tokens := s.tokens.take later ++ t :: s.tokens.drop later }

/-! ## Blocks -/

/-- Starts a block in a column, unless there is one. Its first token stands behind the first
`before` ones. -/
def openBlock (column before : Nat) (t : Token) (s : Layout) : Layout :=
  if s.inFlow ∨ column ≤ s.indent then s
  else { s.insert before t with indent := column, outer := s.indent :: s.outer }

/-- The columns that are left of blocks when all to the right of a column are closed, and how many
are closed. -/
def closing (column : Int) (indent : Int) : List Int → Int × List Int × Nat
  | [] => (indent, [], 0)
  | next :: rest =>
    if column < indent then
      let (i, outer, n) := closing column next rest
      (i, outer, n + 1)
    else (indent, next :: rest, 0)

/-- Ends the blocks to the right of a column. -/
def closeBlocks (column : Int) (s : Layout) : Layout :=
  if s.inFlow then s
  else
    let (indent, outer, n) := closing column s.indent s.outer
    { s with
      indent := indent
      outer := outer
      tokens := List.replicate n .blockEnd ++ s.tokens }

/-! ## Keys -/

/-- Notes that a key may start at the place. Where an earlier place has to be a key, and is none,
the text is refused. -/
def noteKey? (s : Layout) : Option Layout :=
  if s.keyAllowed then
    if s.key.any KeyPlace.required then none
    else
      let required := !s.inFlow && s.indent = s.cursor.column
      some { s with key := some ⟨s.cursor, s.tokens.length, required⟩ }
  else some s

/-- Notes that no key starts before the place. -/
def dropKey? (s : Layout) : Option Layout :=
  if s.key.any KeyPlace.required then none else some { s with key := none }

/-- Whether a key that starts at a place may still go on at another one. -/
def KeyPlace.reaches (k : KeyPlace) (p : Cursor) : Bool :=
  p.line ≤ k.start.line && p.offset ≤ k.start.offset + 1024

/-- What is left of a key that may start at a place, where it has to end before another one. -/
def KeyPlace.until? (p : Cursor) : Option KeyPlace → Option (Option KeyPlace)
  | none => some none
  | some k => if KeyPlace.reaches k p then some (some k) else if k.required then none else some none

/-- Drops the keys that would be too long. -/
def dropLongKeys? (s : Layout) : Option Layout :=
  match KeyPlace.until? s.cursor s.key, s.outerKeys.mapM (KeyPlace.until? s.cursor) with
  | some key, some outerKeys => some { s with key := key, outerKeys := outerKeys }
  | _, _ => none

/-! ## Tokens -/

/-- Goes to the next token. A line feed outside of brackets and braces allows a key; tabs count as
blanks only where no key is allowed. The bound `fuel` is on the number of lines. -/
def skipFiller : Nat → Layout → Layout
  | 0, s => s
  | fuel + 1, s =>
    let p := s.cursor
    let p := if p.column = 0 ∧ p.rest.head?.any isEncodingMark then p.skip 1 else p
    let tabs := s.inFlow || !s.keyAllowed
    let p := (p.skipWhile fun c => c = ' ' || (tabs && c = '\t')).skipComment
    if p.rest.head?.any isBreak then
      skipFiller fuel { s with cursor := p.skipBreak, keyAllowed := s.keyAllowed || !s.inFlow }
    else { s with cursor := p }

/-- Reads a mark of so many characters. -/
def mark (t : Token) (length : Nat) (s : Layout) : Layout :=
  { s.push t with cursor := s.cursor.skip length }

/-- Reads a token that the reader returns, which may be the start of a key. -/
def word? (token : Option (Token × Cursor)) (s : Layout) : Option Layout :=
  match s.noteKey?, token with
  | some s, some (t, p) => some { s.push t with cursor := p, keyAllowed := false }
  | _, _ => none

/-- Reads a scalar without quotes. -/
def plainWord? (s : Layout) : Option Layout :=
  match s.noteKey?, plain? s.inFlow (s.indent + 1) s.cursor with
  | some s, some w =>
    some { s.push (.scalar (String.ofList w.text) .plain) with
      cursor := w.next
      keyAllowed := w.endsLine }
  | _, _ => none

/-- Reads a scalar that is a block of lines. -/
def blockWord? (style : Style) (s : Layout) : Option Layout :=
  match s.dropKey?, block? (style = .folded) s.indent s.cursor with
  | some s, some (text, p) =>
    some { s.push (.scalar text style) with cursor := p, keyAllowed := true }
  | _, _ => none

/-- Reads an opening bracket or brace. -/
def openFlow? (t : Token) (s : Layout) : Option Layout :=
  s.noteKey?.map fun s =>
    { s.mark t 1 with key := none, outerKeys := s.key :: s.outerKeys, keyAllowed := true }

/-- Reads a closing bracket or brace. -/
def closeFlow? (t : Token) (s : Layout) : Option Layout :=
  s.dropKey?.map fun s =>
    let s := { s.mark t 1 with keyAllowed := false }
    match s.outerKeys with
    | [] => s
    | key :: rest => { s with key := key, outerKeys := rest }

/-- Reads the mark before an item of a sequence, or before a key. Outside of brackets and braces, a
block starts there. -/
def blockMark? (t opening : Token) (keyAllowed : Bool) (s : Layout) : Option Layout :=
  if !s.inFlow ∧ !s.keyAllowed then none
  else
    (s.openBlock s.cursor.column s.tokens.length opening).dropKey?.map fun s =>
      { s.mark t 1 with keyAllowed := keyAllowed }

/-- Reads the colon before a value. Where a key may start before it, this is the key. -/
def colon? (s : Layout) : Option Layout :=
  match s.key with
  | some k =>
    let s := (s.insert k.before .key).openBlock k.start.column k.before .blockMapping
    some { s.mark .value 1 with key := none, keyAllowed := false }
  | none =>
    if !s.inFlow ∧ !s.keyAllowed then none
    else
      let s := s.openBlock s.cursor.column s.tokens.length .blockMapping
      some { s.mark .value 1 with keyAllowed := !s.inFlow }

/-- Reads what stands outside of all blocks: the mark of a document, or a directive. -/
def outermost? (token : Option (Token × Cursor)) (s : Layout) : Option Layout :=
  match (s.closeBlocks (-1)).dropKey?, token with
  | some s, some (t, p) => some { s.push t with cursor := p, keyAllowed := false }
  | _, _ => none

/-- Reads the token at the place. -/
def token? (s : Layout) : Option Layout :=
  let p := s.cursor
  let inFlow := s.inFlow
  match p.rest with
  | [] => none
  | c :: rest =>
    if p.column = 0 ∧ c = '%' then s.outermost? (directive? p)
    else if p.column = 0 ∧ startsMark '-' p.rest then
      s.outermost? (some (.documentStart, p.skip 3))
    else if p.column = 0 ∧ startsMark '.' p.rest then s.outermost? (some (.documentEnd, p.skip 3))
    else if c = '[' then s.openFlow? .openBracket
    else if c = '\x7b' then s.openFlow? .openBrace
    else if c = ']' then s.closeFlow? .closeBracket
    else if c = '\x7d' then s.closeFlow? .closeBrace
    else if c = ',' then s.dropKey?.map fun s => { s.mark .comma 1 with keyAllowed := true }
    else if c = '-' ∧ endsWord rest then s.blockMark? .item .blockSequence true
    else if c = '?' ∧ (inFlow ∨ endsWord rest) then s.blockMark? .key .blockMapping !inFlow
    else if c = ':' ∧ (inFlow ∨ endsWord rest) then s.colon?
    else if c = '*' then s.word? ((anchorName? p).map fun (name, p) => (.reference name, p))
    else if c = '&' then s.word? ((anchorName? p).map fun (name, p) => (.anchor name, p))
    else if c = '!' then s.word? (tag? inFlow p)
    else if c = '|' ∧ !inFlow then s.blockWord? .literal
    else if c = '>' ∧ !inFlow then s.blockWord? .folded
    else if c = '\'' ∨ c = '"' then
      s.word? ((quoted? c p).map fun (text, p) => (.scalar text .quoted, p))
    else if startsPlain inFlow p.rest then s.plainWord?
    else none

/-- Reads the next token and the ends of blocks before it. Returns whether the text goes on. -/
def next? (s : Layout) : Option (Layout × Bool) :=
  match (s.skipFiller (s.cursor.rest.length + 1)).dropLongKeys? with
  | none => none
  | some s =>
    if s.cursor.rest.isEmpty then
      (s.closeBlocks (-1)).dropKey?.map fun s => (s, false)
    else (s.closeBlocks s.cursor.column).token?.map fun s => (s, true)

/-- Reads the tokens up to the end of the text, of which there are at most `fuel`. -/
def finish? : Nat → Layout → Option Layout
  | 0, _ => none
  | fuel + 1, s =>
    match s.next? with
    | none => none
    | some (s, true) => finish? fuel s
    | some (s, false) => some s

end Layout

/-- The tokens of a text. The mark of an encoding at the start of a line takes up a column. -/
def tokens? (cs : List Char) : Option (List Token) :=
  if cs.all isAllowed then
    (Layout.finish? (cs.length + 2) { cursor := { rest := cs } }).map fun s => s.tokens.reverse
  else none

end Sift.Yaml
