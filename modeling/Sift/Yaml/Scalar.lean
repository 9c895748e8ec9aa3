import Sift.Number.Numeral
import Sift.Yaml.Cursor

/-!
# Scalars in YAML

A scalar is written without quotes, in quotes of two kinds, or as a block of lines. Where a scalar
goes over several lines, the end of a line counts as a blank, and empty lines as ends of lines. A
reader takes the scalar at a place and returns the place behind it.

## Main definitions

* `Sift.Yaml.Gap`: what stands between two words of a scalar.
* `Sift.Yaml.quoted?`: scalars in quotes.
* `Sift.Yaml.plain?`: scalars without quotes.
* `Sift.Yaml.block?`: scalars that are blocks of lines.
-/

set_option autoImplicit false

namespace Sift.Yaml

/-! ## Between words -/

/-- Blanks and ends of lines between two words of a scalar. -/
structure Gap where
  /-- Whether a line ends in the gap. -/
  breaks : Bool := false
  /-- The blanks, where no line ends. -/
  blanks : List Char := []
  /-- What the first end of a line counts for. -/
  first : List Char := []
  /-- What the further ends of lines count for. -/
  further : List Char := []

namespace Gap

/-- The gap with one more blank, which counts only where no line ends before it. -/
def addBlank (c : Char) (g : Gap) : Gap :=
  if g.breaks then g else { g with blanks := g.blanks ++ [c] }

/-- The gap with one more end of a line. -/
def addBreak (s : List Char) (g : Gap) : Gap :=
  if g.breaks then { g with further := g.further ++ s } else { g with breaks := true, first := s }

/-- What the gap stands for: a single line feed is a blank, and the first of several is
dropped. -/
def text (g : Gap) : List Char :=
  if !g.breaks then g.blanks
  else if g.first.head? = some '\n' then if g.further.isEmpty then [' '] else g.further
  else g.first ++ g.further

/-- Adds the blanks and ends of lines at a place to a gap. At the start of a line, tabs are refused
before the column `least`. The bound `fuel` is on the number of characters. -/
def extend? (least : Int) : Nat → Gap → Cursor → Option (Gap × Cursor)
  | 0, g, p => some (g, p)
  | fuel + 1, g, p =>
    match p.rest with
    | [] => some (g, p)
    | c :: _ =>
      if isBlank c then
        if g.breaks ∧ p.column < least ∧ c = '\t' then none
        else extend? least fuel (g.addBlank c) (p.skip 1)
      else if isBreak c then extend? least fuel (g.addBreak p.breakText) p.skipBreak
      else some (g, p)

end Gap

/-! ## Quotes -/

/-- The codes of the characters that single letters stand for behind a backslash. -/
def escapes : List (Char × Nat) :=
  [('0', 0), ('a', 7), ('b', 8), ('t', 9), ('\t', 9), ('n', 10), ('v', 11), ('f', 12), ('r', 13),
    ('e', 27), (' ', 32), ('"', 34), ('/', 47), ('\\', 92), ('N', 0x85), ('_', 0xA0),
    ('L', 0x2028), ('P', 0x2029)]

/-- How many hexadecimal digits follow a letter behind a backslash. -/
def escapeWidth? : Char → Option Nat
  | 'x' => some 2
  | 'u' => some 4
  | 'U' => some 8
  | _ => none

/-- The character with a code, if there is one. -/
def charOf? (n : Nat) : Option Char := if n.isValidChar then some (Char.ofNat n) else none

/-- The character of an escape after its backslash, and the length of what stands for it. -/
def escape? : List Char → Option (Char × Nat)
  | [] => none
  | c :: rest =>
    match escapes.lookup c, escapeWidth? c with
    | some n, _ => some (Char.ofNat n, 1)
    | none, some width =>
      if rest.length < width then none
      else ((Numeral.inRadix? 16 (rest.take width)).bind charOf?).map fun c => (c, width + 1)
    | none, none => none

/-- What follows the opening quote of a scalar up to the closing one. Escapes are read in double
quotes; in single quotes, two quotes stand for one. The bound `fuel` is on the number of
characters; those read so far are in `acc`, last one first. -/
def quotedFrom? (quote : Char) : Nat → List Char → Cursor → Option (String × Cursor)
  | 0, _, _ => none
  | fuel + 1, acc, p =>
    let gap (g : Gap) (p : Cursor) : Option (String × Cursor) :=
      match g.extend? 0 p.rest.length p with
      | some (g, p) =>
        if p.atDocumentMark then none else quotedFrom? quote fuel (g.text.reverse ++ acc) p
      | none => none
    match p.rest with
    | [] => none
    | c :: rest =>
      if c = quote then
        if quote = '\'' ∧ startsWith '\'' rest then quotedFrom? quote fuel ('\'' :: acc) (p.skip 2)
        else some (String.ofList acc.reverse, p.skip 1)
      else if isSpace c then gap {} p
      else if c = '\\' ∧ quote = '"' then
        if rest.head?.any isBreak then gap { breaks := true } (p.skip 1).skipBreak
        else
          match escape? rest with
          | some (e, width) => quotedFrom? quote fuel (e :: acc) (p.skip (width + 1))
          | none => none
      else quotedFrom? quote fuel (c :: acc) (p.skip 1)

/-- A scalar in quotes of a kind, at its opening quote. -/
def quoted? (quote : Char) (p : Cursor) : Option (String × Cursor) :=
  quotedFrom? quote (p.rest.length + 1) [] (p.skip 1)

/-! ## Without quotes -/

/-- Whether a scalar without quotes can start with the first character of a text. Within
collections in brackets or braces, question marks and colons always have a meaning of their own. -/
def startsPlain (inFlow : Bool) : List Char → Bool
  | [] => false
  | c :: rest =>
    if c = '-' then !rest.head?.any isBlank
    else if c = '?' ∨ c = ':' then !inFlow && !endsWord rest
    else
      !isSpace c && !isFlowMark c &&
        !(['#', '&', '*', '!', '|', '>', '\'', '"', '%', '@', Char.ofNat 96].contains c)

/-- The word of a scalar without quotes at the start of a text: the characters up to a blank, a
colon at the end of a word, or a mark of a collection in brackets or braces. There, a colon right
before a mark or a question mark is refused. -/
def plainWord? (inFlow : Bool) : List Char → Option (List Char)
  | [] => some []
  | c :: rest =>
    if isSpace c then some []
    else if inFlow ∧ c = ':' ∧ rest.head?.any fun d => isFlowMark d || d = '?' then none
    else if (c = ':' ∧ endsWord rest) ∨ (inFlow ∧ isFlowMark c) then some []
    else (plainWord? inFlow rest).map (c :: ·)

/-- A scalar without quotes, and the place behind it. -/
structure PlainScalar where
  /-- The text. -/
  text : List Char
  /-- The place behind the scalar and the blanks after it. -/
  next : Cursor
  /-- Whether a line ends between the scalar and that place. -/
  endsLine : Bool

/-- The further words of a scalar without quotes that has the text `acc` so far. Outside of
collections in brackets and braces, the words of further lines start at the column `least` or to
the right of it. The bound `fuel` is on the number of words. -/
def plainFrom? (inFlow : Bool) (least : Int) : Nat → List Char → Cursor → Option PlainScalar
  | 0, _, _ => none
  | fuel + 1, acc, p =>
    match Gap.extend? least p.rest.length {} p with
    | none => none
    | some (g, next) =>
      let finished : PlainScalar := ⟨acc, next, g.breaks⟩
      if (!inFlow ∧ next.column < least) ∨ next.atDocumentMark ∨ startsWith '#' next.rest then
        some finished
      else
        match plainWord? inFlow next.rest with
        | none => none
        | some [] => some finished
        | some word => plainFrom? inFlow least fuel (acc ++ g.text ++ word) (next.skip word.length)

/-- A scalar without quotes whose further lines start at a column or to the right of it. -/
def plain? (inFlow : Bool) (least : Int) (p : Cursor) : Option PlainScalar :=
  match plainWord? inFlow p.rest with
  | none => none
  | some word => plainFrom? inFlow least (p.rest.length + 1) word (p.skip word.length)

/-! ## Blocks -/

/-- What becomes of the ends of lines at the end of a block. -/
inductive Chomping where
  /-- They are dropped. -/
  | strip
  /-- One of them is kept. -/
  | clip
  /-- They are kept. -/
  | keep
deriving DecidableEq, Repr

/-- How a block is written. -/
structure BlockHeader where
  /-- What becomes of the ends of lines at the end. -/
  chomping : Chomping := .clip
  /-- How much further to the right than its parent the block starts, if this is said. -/
  indent : Option Nat := none

/-- The sign for the ends of lines at the start of a text. -/
def chomping? : List Char → Option Chomping
  | '+' :: _ => some .keep
  | '-' :: _ => some .strip
  | _ => none

/-- The digit for the start of a block at the start of a text. -/
def indent? : List Char → Option Nat
  | c :: _ => if Numeral.isDigit c then some (Numeral.digitValue c) else none
  | [] => none

/-- The header of a block after its first mark: at most one sign of each kind, then a comment. A
block that starts no further to the right than its parent is refused. -/
def blockHeader? (p : Cursor) : Option (BlockHeader × Cursor) :=
  let (h, p) : BlockHeader × Cursor :=
    match chomping? p.rest with
    | some c =>
      let p := p.skip 1
      match indent? p.rest with
      | some n => (⟨c, some n⟩, p.skip 1)
      | none => (⟨c, none⟩, p)
    | none =>
      match indent? p.rest with
      | some n =>
        let p := p.skip 1
        match chomping? p.rest with
        | some c => (⟨c, some n⟩, p.skip 1)
        | none => (⟨.clip, some n⟩, p)
      | none => ({}, p)
  if h.indent = some 0 then none else p.finishLine?.map fun p => (h, p)

/-- The empty lines before a line of a block, as what their ends count for, with the greatest
column of their blanks and the place where the line starts. Blanks are skipped up to the column of
the block, where it is known; tabs are refused there. The bound `fuel` is on the number of lines. -/
def blockBreaks? (column : Option Nat) :
    Nat → List Char → Nat → Cursor → Option (List Char × Nat × Cursor)
  | 0, _, _, _ => none
  | fuel + 1, acc, greatest, p =>
    let spaces := (p.rest.takeWhile fun c => c = ' ').length
    let p := p.skip (match column with
      | some n => min spaces (n - p.column)
      | none => spaces)
    let greatest := max greatest p.column
    if (column.all fun n => p.column < n) ∧ startsWith '\t' p.rest then none
    else if p.rest.head?.any isBreak then
      blockBreaks? column fuel (acc ++ p.breakText) greatest p.skipBreak
    else some (acc, greatest, p)

/-- The text of a block so far. -/
structure BlockText where
  /-- The text up to the end of the last line. -/
  text : List Char := []
  /-- What the end of that line counts for. -/
  ending : List Char := []
  /-- What the ends of the empty lines after it count for. -/
  further : List Char := []
  /-- Whether the line starts with a blank. -/
  startsBlank : Bool := false

/-- The text with a further line. Where lines are joined, a line feed between two lines that do not
start with a blank is a blank, or nothing where empty lines stand between them. -/
def BlockText.add (folds : Bool) (t : BlockText) (line : List Char) : List Char :=
  let startsBlank := line.head?.any isBlank
  let joint :=
    if folds && t.ending.head? = some '\n' && !t.startsBlank && !startsBlank then
      if t.further.isEmpty then [' '] else []
    else t.ending
  t.text ++ joint ++ t.further ++ line

/-- The lines of a block in a column. The bound `fuel` is on the number of lines. -/
def blockLines? (folds : Bool) (column : Nat) :
    Nat → BlockText → Cursor → Option (BlockText × Cursor)
  | 0, _, _ => none
  | fuel + 1, t, p =>
    if p.column = column ∧ p.rest ≠ [] then
      let line := p.rest.takeWhile fun c => !isBreak c
      let p := p.skip line.length
      match blockBreaks? (some column) (p.rest.length + 1) [] 0 p.skipBreak with
      | none => none
      | some (further, _, next) =>
        let t := ⟨t.add folds line, p.breakText, further, line.head?.any isBlank⟩
        blockLines? folds column fuel t next
    else some (t, p)

/-- A block at its first mark, which belongs to a block in the column `parent`. -/
def block? (folds : Bool) (parent : Int) (p : Cursor) : Option (String × Cursor) :=
  match blockHeader? (p.skip 1) with
  | none => none
  | some (h, p) =>
    let column := h.indent.map fun n => (max parent 0).toNat + n
    match blockBreaks? column (p.rest.length + 1) [] 0 p with
    | none => none
    | some (further, greatest, p) =>
      let column := column.getD (max greatest (max (parent + 1) 1).toNat)
      match blockLines? folds column (p.rest.length + 1) { further := further } p with
      | none => none
      | some (t, p) =>
        let text := match h.chomping with
          | .strip => t.text
          | .clip => t.text ++ t.ending
          | .keep => t.text ++ t.ending ++ t.further
        some (String.ofList text, p)

end Sift.Yaml
