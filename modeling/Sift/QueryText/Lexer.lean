import Sift.QueryText.Token
import Sift.Text.Basic
import Sift.Unicode.Alphanumeric

/-!
# Cutting query texts into tokens

At each place the first form that fits is taken: a parenthesis, an operator, a clause. Within a
clause a field is a run of field characters with a colon behind it, and a value is read as a
quoted text, a pattern, a range or a plain run of characters, in this order. Spaces, tabs and line
ends separate tokens.

## Main definitions

* `Sift.Token.scan`: the tokens of a text and what remains where no token fits.
-/

set_option autoImplicit false

namespace Sift

namespace QueryText

/-- The blanks between tokens. -/
def isGap (c : Char) : Bool := c = ' ' || c = '\t' || c = '\r' || c = '\n'

/-- The characters of plain values. -/
def isPlain (c : Char) : Bool := !isBlank c && c ≠ '(' && c ≠ ')' && c ≠ '"'

/-- The characters of field names. -/
def isFieldChar (c : Char) : Bool :=
  isAlphanumeric c || c = '_' || c = '.' || c = '-' || c = '@'

/-- The characters of the bounds of ranges. -/
def isBoundChar (c : Char) : Bool := !isBlank c && c ≠ ']' && c ≠ '\x7d'

/-- What follows an operator word, which stands by itself. -/
def word? (word : List Char) (cs : List Char) : Option (List Char) :=
  match Text.dropFront? word cs with
  | some [] => some []
  | some (c :: rest) => if isPlain c then none else some (c :: rest)
  | none => none

/-- A parenthesis and what follows it. -/
def parenthesis? : List Char → Option (Token × List Char)
  | '(' :: rest => some (.opening, rest)
  | ')' :: rest => some (.closing, rest)
  | _ => none

/-- A sign of negation and what follows it, which is not a blank. -/
def sign? : List Char → Option (Token × List Char)
  | s :: c :: rest =>
    if (s = '-' ∨ s = '!') ∧ !isBlank c then some (.not, c :: rest) else none
  | _ => none

/-- The words of the operators. -/
def operatorWords : List (List Char × Token) :=
  [(['A', 'N', 'D'], .and), (['&', '&'], .and), (['O', 'R'], .or), (['|', '|'], .or),
    (['N', 'O', 'T'], .not)]

/-- An operator and what follows it. -/
def operator? (cs : List Char) : Option (Token × List Char) :=
  match operatorWords.findSome? fun (w, t) => (word? w cs).map fun rest => (t, rest) with
  | some found => some found
  | none => sign? cs

/-- The characters up to a mark, and what follows the mark. -/
def upTo? (mark : Char) : List Char → Option (List Char × List Char)
  | [] => none
  | c :: rest =>
    if c = mark then some ([], rest)
    else (upTo? mark rest).map fun (before, tail) => (c :: before, tail)

/-- A text between two of the same mark, and what follows it. -/
def between? (mark : Char) : List Char → Option (String × List Char)
  | [] => none
  | c :: rest =>
    if c = mark then (upTo? mark rest).map fun (inner, tail) => (String.ofList inner, tail)
    else none

/-- A non-empty run of characters of a class, and what follows it. -/
def run? (p : Char → Bool) (cs : List Char) : Option (String × List Char) :=
  match cs.takeWhile p with
  | [] => none
  | taken => some (String.ofList taken, cs.dropWhile p)

/-- A bound of a range and what follows it. -/
def bound? (cs : List Char) : Option (String × List Char) :=
  match between? '"' cs with
  | some found => some found
  | none => run? isBoundChar cs

/-- What follows a non-empty run of blanks. -/
def gap? : List Char → Option (List Char)
  | [] => none
  | c :: rest => if isGap c then some (rest.dropWhile isGap) else none

/-- What follows the word between two bounds and the blanks around it. -/
def connective? (cs : List Char) : Option (List Char) :=
  ((gap? cs).bind (Text.dropFront? ['T', 'O'])).bind gap?

/-- The rest of a range after its opening mark. -/
def rangeAfter? (includeLower : Bool) (cs : List Char) : Option (ClauseValue × List Char) :=
  match bound? (cs.dropWhile isGap) with
  | none => none
  | some (lower, cs) =>
    match (connective? cs).bind bound? with
    | none => none
    | some (upper, cs) =>
      match cs.dropWhile isGap with
      | ']' :: rest => some (.range lower upper includeLower true, rest)
      | '\x7d' :: rest => some (.range lower upper includeLower false, rest)
      | _ => none

/-- A range and what follows it. -/
def range? : List Char → Option (ClauseValue × List Char)
  | '[' :: rest => rangeAfter? true rest
  | '\x7b' :: rest => rangeAfter? false rest
  | _ => none

/-- The value of a clause and what follows it. -/
def value? (cs : List Char) : Option (ClauseValue × List Char) :=
  match between? '"' cs with
  | some (s, rest) => some (.quoted s, rest)
  | none =>
    match between? '/' cs with
    | some (s, rest) => some (.regex s, rest)
    | none =>
      match range? cs with
      | some found => some found
      | none => (run? isPlain cs).map fun (s, rest) => (.plain s, rest)

/-- The name of a field and what follows its colon. -/
def fieldName? (cs : List Char) : Option (String × List Char) :=
  match run? isFieldChar cs with
  | some (name, ':' :: rest) => some (name, rest)
  | _ => none

/-- A clause and what follows it. -/
def clause? (cs : List Char) : Option (Token × List Char) :=
  match fieldName? cs with
  | some (name, rest) => (value? rest).map fun (v, rest) => (.clause ⟨some name, v⟩, rest)
  | none => (value? cs).map fun (v, rest) => (.clause ⟨none, v⟩, rest)

/-- The first token of a text that starts with one, and what follows it. -/
def token? (cs : List Char) : Option (Token × List Char) :=
  match parenthesis? cs with
  | some found => some found
  | none =>
    match operator? cs with
    | some found => some found
    | none => clause? cs

/-- Tokens from the front of a text, at most as many as the first argument says, and what remains
behind the blanks after the last one. -/
def scanTokens : Nat → List Char → List Token × List Char
  | 0, cs => ([], cs.dropWhile isGap)
  | fuel + 1, cs =>
    match token? (cs.dropWhile isGap) with
    | none => ([], cs.dropWhile isGap)
    | some (t, rest) =>
      let (tokens, remaining) := scanTokens fuel rest
      (t :: tokens, remaining)

end QueryText

/-- The tokens of a text, and what remains of it where no further token fits. A token takes at
least one character, so that there are no more tokens than characters. -/
def Token.scan (text : String) : List Token × List Char :=
  QueryText.scanTokens text.toList.length text.toList

end Sift
