/-!
# Places in YAML texts

The structure of a YAML text shows in the columns at which its parts start. A cursor is a place in
a text, with the text after it.

## Main definitions

* `Sift.Yaml.Cursor`: places.
* `Sift.Yaml.Cursor.skip`, `Sift.Yaml.Cursor.skipWhile`: the place behind characters of a line.
* `Sift.Yaml.Cursor.skipBreak`: the place behind the end of a line.
* `Sift.Yaml.isAllowed`: the characters that a text may hold.
-/

set_option autoImplicit false

namespace Sift.Yaml

/-! ## Characters -/

/-- Blanks within a line. -/
def isBlank (c : Char) : Bool := c = ' ' || c = '\t'

/-- Ends of lines that stay what they are within a scalar. -/
def isSeparator (c : Char) : Bool := c = Char.ofNat 0x2028 || c = Char.ofNat 0x2029

/-- Ends of lines. -/
def isBreak (c : Char) : Bool :=
  c = '\n' || c = '\r' || c = Char.ofNat 0x85 || isSeparator c

/-- Blanks and ends of lines. -/
def isSpace (c : Char) : Bool := isBlank c || isBreak c

/-- Letters, digits, underscores and hyphens of ASCII. -/
def isWordChar (c : Char) : Bool :=
  ('a' ≤ c && c ≤ 'z') || ('A' ≤ c && c ≤ 'Z') || ('0' ≤ c && c ≤ '9') || c = '_' || c = '-'

/-- The mark of an encoding, which may stand at the start of a line. -/
def isEncodingMark (c : Char) : Bool := c = Char.ofNat 0xFEFF

/-- Whether a text may hold a character: all but control characters, though tabs and ends of lines
are allowed, and but the last two codes of the first plane. -/
def isAllowed (c : Char) : Bool :=
  let n := c.toNat
  n = 9 || n = 10 || n = 13 || n = 0x85 || (32 ≤ n && n ≤ 126) ||
    (160 ≤ n && n ≠ 0xFFFE && n ≠ 0xFFFF)

/-- The marks that open, separate and close collections within a line. -/
def isFlowMark (c : Char) : Bool :=
  c = ',' || c = '[' || c = ']' || c = '\x7b' || c = '\x7d'

/-- Whether a word ends before a text: at a blank, at the end of a line, or where nothing
follows. -/
def endsWord (cs : List Char) : Bool := cs.head?.all isSpace

/-- Whether a line ends before a text. -/
def endsLine (cs : List Char) : Bool := cs.head?.all isBreak

/-- Whether a text starts with a character. -/
def startsWith (c : Char) (cs : List Char) : Bool := cs.head? = some c

/-- Whether a text starts with a mark of three characters that stands by itself. -/
def startsMark (c : Char) : List Char → Bool
  | x :: y :: z :: rest => x = c && y = c && z = c && endsWord rest
  | _ => false

/-! ## Places -/

/-- A place in a text. -/
structure Cursor where
  /-- The text after the place. -/
  rest : List Char
  /-- How many characters stand before the place. -/
  offset : Nat := 0
  /-- How many lines end before the place. -/
  line : Nat := 0
  /-- How many characters stand before the place in its line. -/
  column : Nat := 0
deriving DecidableEq, Repr

namespace Cursor

/-- The place behind so many characters of the line. -/
def skip (n : Nat) (p : Cursor) : Cursor :=
  { p with rest := p.rest.drop n, offset := p.offset + n, column := p.column + n }

/-- The place behind the characters of a kind that follow. -/
def skipWhile (kind : Char → Bool) (p : Cursor) : Cursor := p.skip (p.rest.takeWhile kind).length

/-- The place behind blanks. -/
def skipBlanks (p : Cursor) : Cursor := p.skipWhile isBlank

/-- The place behind a comment, if one follows. -/
def skipComment (p : Cursor) : Cursor :=
  if startsWith '#' p.rest then p.skipWhile fun c => !isBreak c else p

/-- The place behind the end of a line. A carriage return and a line feed end a line together. -/
def skipBreak (p : Cursor) : Cursor :=
  match p.rest with
  | [] => p
  | '\r' :: '\n' :: rest => ⟨rest, p.offset + 2, p.line + 1, 0⟩
  | _ :: rest => ⟨rest, p.offset + 1, p.line + 1, 0⟩

/-- What the end of a line at a place counts for within a scalar, nothing at the end of the
text. -/
def breakText (p : Cursor) : List Char :=
  match p.rest with
  | [] => []
  | c :: _ => if isSeparator c then [c] else ['\n']

/-- Whether the start of a document, or its end, is marked at a place. -/
def atDocumentMark (p : Cursor) : Bool :=
  p.column = 0 && (startsMark '-' p.rest || startsMark '.' p.rest)

/-- The place behind what may follow in a line besides its text: blanks and a comment. Anything
else is refused. -/
def finishLine? (p : Cursor) : Option Cursor :=
  let p := p.skipBlanks.skipComment
  if endsLine p.rest then some p.skipBreak else none

end Cursor

end Sift.Yaml
