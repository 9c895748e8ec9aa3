import Sift.Pattern.Basic

/-!
# Flags of regular expressions

Flags change what the parts of a regular expression mean. They are set for the rest of a group, or
for one group alone.

## Main definitions

* `Sift.RegexFlags`: the flags.
* `Sift.RegexFlags.change?`: the flags after a change written in an expression.
-/

set_option autoImplicit false

namespace Sift

/-- The flags in force. -/
structure RegexFlags where
  /-- Case is disregarded. -/
  ignoreCase : Bool
  /-- Line marks match at every line. -/
  multiLine : Bool
  /-- A dot matches line feeds too. -/
  dotAll : Bool
  /-- Lines also end with carriage returns. -/
  crlf : Bool
  /-- Classes have the characters of all scripts. -/
  unicode : Bool
  /-- Blanks and comments in the expression are ignored. -/
  verbose : Bool
deriving DecidableEq, Repr

namespace RegexFlags

/-- The flags at the start: case is disregarded. -/
def initial : RegexFlags := ⟨true, false, false, false, true, false⟩

/-- Sets the flag with a letter. Greed decides nothing about whether there is a match. -/
def set? (f : RegexFlags) (letter : Char) (value : Bool) : Option RegexFlags :=
  match letter with
  | 'i' => some { f with ignoreCase := value }
  | 'm' => some { f with multiLine := value }
  | 's' => some { f with dotAll := value }
  | 'R' => some { f with crlf := value }
  | 'u' => some { f with unicode := value }
  | 'x' => some { f with verbose := value }
  | 'U' => some f
  | _ => none

/-- Reads changes up to a colon or a closing parenthesis: letters of flags to set, and behind a
hyphen letters of flags to unset. The result says which of the two marks follows. -/
def change? (f : RegexFlags) (value : Bool) (seen : List Char) :
    List Char → Option (RegexFlags × Char × List Char)
  | [] => none
  | c :: rest =>
    if c = ':' ∨ c = ')' then
      if seen.head? = some '-' then none
      else if c = ')' ∧ seen.isEmpty then none
      else some (f, c, rest)
    else if seen.contains c then none
    else if c = '-' then change? f false (c :: seen) rest
    else
      match f.set? c value with
      | some f => change? f value (c :: seen) rest
      | none => none

/-- The ASCII characters. -/
def ascii : CharSet := .ranges [(0, 0x7F)]

/-- A set under the flags: closed under change of case where case is disregarded. -/
def close (f : RegexFlags) (s : CharSet) : CharSet :=
  if !f.ignoreCase then s
  else if f.unicode then .anyCase s
  else .inter (.anyCase s) ascii

/-- The set of a character under the flags. -/
def charSet (f : RegexFlags) (c : Char) : CharSet :=
  if !f.unicode && 0x7F < c.toNat then .single c else f.close (.single c)

/-- The complement of a set. Without the characters of all scripts there is none. -/
def negate? (f : RegexFlags) (negated : Bool) (s : CharSet) : Option CharSet :=
  if !negated then some s else if f.unicode then some (.compl s) else none

/-- The characters of words. -/
def word (f : RegexFlags) : CharSet :=
  if f.unicode then Property.word
  else .ranges [(0x30, 0x39), (0x41, 0x5A), (0x5F, 0x5F), (0x61, 0x7A)]

/-- The decimal digits. -/
def digit (f : RegexFlags) : CharSet :=
  if f.unicode then Property.digit else .ranges [(0x30, 0x39)]

/-- The blanks. -/
def blank (f : RegexFlags) : CharSet :=
  if f.unicode then Property.blank else .ranges [(0x9, 0xD), (0x20, 0x20)]

/-- The pattern of a dot. Without the characters of all scripts there is none. -/
def dot? (f : RegexFlags) : Option Pattern :=
  if !f.unicode then none
  else if f.dotAll then some (.one .all)
  else if f.crlf then some (.one (.compl (.ranges [(0xA, 0xA), (0xD, 0xD)])))
  else some .any

/-- The start of a text or line. -/
def caret (f : RegexFlags) : Pattern :=
  .look (if !f.multiLine then .start else if f.crlf then .crlfStart else .lineStart)

/-- The end of a text or line. -/
def dollar (f : RegexFlags) : Pattern :=
  .look (if !f.multiLine then .stop else if f.crlf then .crlfStop else .lineStop)

end RegexFlags

end Sift
