import Sift.Pattern.Flags
import Sift.Number.Numeral

/-!
# Escapes of regular expressions

A backslash gives the next character another meaning, or takes its special meaning away.

## Main definitions

* `Sift.RegexAtom`: what an escape stands for.
* `Sift.RegexFlags.escape?`: the escape at the front of a text.
-/

set_option autoImplicit false

namespace Sift

/-- What a part of a regular expression without parts of its own stands for. -/
inductive RegexAtom where
  /-- A character. -/
  | char (c : Char)
  /-- A set of characters. -/
  | set (s : CharSet)
  /-- A pattern that is no set of characters. -/
  | pattern (p : Pattern)

namespace RegexFlags

/-- Drops blanks and comments, from inside a comment or from outside. -/
def dropBlanks : Bool → List Char → List Char
  | _, [] => []
  | true, c :: rest => dropBlanks (c ≠ '\n') rest
  | false, c :: rest =>
    if isBlank c then dropBlanks false rest
    else if c = '#' then dropBlanks true rest
    else c :: rest

/-- What follows blanks and comments, where these are ignored. -/
def skip (f : RegexFlags) (cs : List Char) : List Char :=
  if f.verbose then dropBlanks false cs else cs

/-- The characters that have a special meaning somewhere. -/
def isSpecial (c : Char) : Bool :=
  ['\\', '.', '+', '*', '?', '(', ')', '|', '[', ']', '\x7b', '\x7d', '^', '$', '#', '&', '-',
    '~'].contains c

/-- The characters that stand for themselves behind a backslash. -/
def isEscapable (c : Char) : Bool :=
  isSpecial c ||
    (c.toNat < 128 && !Numeral.isDigit c && !('A' ≤ c && c ≤ 'Z') && !('a' ≤ c && c ≤ 'z') &&
      c ≠ '<' && c ≠ '>')

/-- The character with a code, if there is one. -/
def charOf? (n : Nat) : Option Char := if n.isValidChar then some (Char.ofNat n) else none

/-- A number of exactly so many hexadecimal digits, and what follows it. -/
def fixedHex? (f : RegexFlags) : Nat → Nat → List Char → Option (Nat × List Char)
  | 0, n, cs => some (n, cs)
  | k + 1, n, cs =>
    match cs with
    | [] => none
    | c :: rest =>
      match Numeral.digitIn? 16 c with
      | some d => fixedHex? f k (n * 16 + d) (f.skip rest)
      | none => none

/-- Characters up to a closing brace, and what follows it; `fuel` is their greatest number. -/
def braced? (f : RegexFlags) : Nat → List Char → Option (List Char × List Char)
  | 0, _ => none
  | fuel + 1, cs =>
    match f.skip cs with
    | [] => none
    | '\x7d' :: rest => some ([], rest)
    | c :: rest => (f.braced? fuel rest).map fun (inner, tail) => (c :: inner, tail)

/-- A character by its code: so many digits, or any number of them in braces. One of two digits
is a byte where the characters of all scripts are turned off. -/
def hex? (f : RegexFlags) (digits : Nat) (cs : List Char) : Option (RegexAtom × List Char) :=
  match f.skip cs with
  | '\x7b' :: rest =>
    match f.braced? (rest.length + 1) rest with
    | none => none
    | some (inner, tail) =>
      ((Numeral.inRadix? 16 inner).bind charOf?).map fun c => (.char c, f.skip tail)
  | cs =>
    match f.fixedHex? digits 0 cs with
    | none => none
    | some (n, tail) =>
      if digits = 2 ∧ !f.unicode ∧ 0x7F < n then none
      else (charOf? n).map fun c => (.char c, tail)

/-- The name and the value of a property between braces, and whether they are to differ. -/
def propertyParts (cs : List Char) : Option (List Char × List Char × Bool) :=
  match splitAt ['!', '='] cs with
  | some (name, value) => some (name, value, true)
  | none =>
    match (splitAt [':'] cs).or (splitAt ['='] cs) with
    | some (name, value) => some (name, value, false)
    | none => none
where
  /-- The parts before and after a mark. -/
  splitAt (mark : List Char) (cs : List Char) : Option (List Char × List Char) :=
    match cs with
    | [] => none
    | c :: rest =>
      if mark.isPrefixOf (c :: rest) then some ([], (c :: rest).drop mark.length)
      else (splitAt mark rest).map fun (before, after) => (c :: before, after)

/-- The characters with a property, written as one letter or in braces. -/
def property? (f : RegexFlags) (negated : Bool) (cs : List Char) :
    Option (RegexAtom × List Char) :=
  if !f.unicode then none
  else
    match f.skip cs with
    | [] => none
    | '\x7b' :: rest =>
      match f.braced? (rest.length + 1) rest with
      | none => none
      | some (inner, tail) =>
        match propertyParts inner with
        | some (name, value, differ) =>
          (Property.valueSet? name value).map fun s =>
            (.set ((f.close s).negateIf (negated != differ)), tail)
        | none =>
          (Property.set? inner).map fun s => (.set ((f.close s).negateIf negated), tail)
    | c :: rest =>
      if c = '\\' then none
      else (Property.set? [c]).map fun s => (.set ((f.close s).negateIf negated), f.skip rest)

/-- The kinds of word boundaries that are written in braces. -/
def namedBoundary? (f : RegexFlags) (name : String) : Option Look :=
  match name with
  | "start" => some (.wordStart f.word)
  | "end" => some (.wordStop f.word)
  | "start-half" => some (.afterGap f.word)
  | "end-half" => some (.beforeGap f.word)
  | _ => none

/-- The letters of names of word boundaries. -/
def isBoundaryChar (c : Char) : Bool :=
  ('A' ≤ c && c ≤ 'Z') || ('a' ≤ c && c ≤ 'z') || c = '-'

/-- A word boundary. A brace behind it holds the name of a kind, unless it starts a count. -/
def boundary? (f : RegexFlags) (cs : List Char) : Option (RegexAtom × List Char) :=
  match cs with
  | '\x7b' :: rest =>
    match f.skip rest with
    | [] => none
    | c :: _ =>
      if !isBoundaryChar c then some (.pattern (.look (.boundary f.word)), cs)
      else
        match f.braced? (rest.length + 1) rest with
        | none => none
        | some (name, tail) =>
          (f.namedBoundary? (String.ofList name)).map fun l => (.pattern (.look l), tail)
  | cs => some (.pattern (.look (.boundary f.word)), cs)

/-- What the text behind a backslash stands for, and what follows it. -/
def escape? (f : RegexFlags) : List Char → Option (RegexAtom × List Char)
  | [] => none
  | c :: rest =>
    let set (negated : Bool) (s : CharSet) : Option (RegexAtom × List Char) :=
      (f.negate? negated s).map fun s => (.set s, rest)
    let look (l : Look) : Option (RegexAtom × List Char) := some (.pattern (.look l), rest)
    let char (code : Nat) : Option (RegexAtom × List Char) := some (.char (Char.ofNat code), rest)
    match c with
    | 'x' => f.hex? 2 rest
    | 'u' => f.hex? 4 rest
    | 'U' => f.hex? 8 rest
    | 'p' => f.property? false rest
    | 'P' => f.property? true rest
    | 'd' => set false f.digit
    | 'D' => set true f.digit
    | 's' => set false f.blank
    | 'S' => set true f.blank
    | 'w' => set false f.word
    | 'W' => set true f.word
    | 'a' => char 0x7
    | 'f' => char 0xC
    | 't' => char 0x9
    | 'n' => char 0xA
    | 'r' => char 0xD
    | 'v' => char 0xB
    | 'A' => look .start
    | 'z' => look .stop
    | 'b' => f.boundary? rest
    | 'B' => look (.inside f.word)
    | '<' => look (.wordStart f.word)
    | '>' => look (.wordStop f.word)
    | c => if isEscapable c then some (.char c, rest) else none

end RegexFlags

end Sift
