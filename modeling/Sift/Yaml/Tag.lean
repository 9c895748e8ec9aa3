import Sift.Number.Numeral
import Sift.Yaml.Cursor
import Sift.Yaml.Token

/-!
# Names, tags and directives in YAML

A node may have a name, by which later places refer to it, and a tag, which names its kind. The
directives at the head of a document say which version it is written for and which texts the
handles of tags stand for.

## Main definitions

* `Sift.Yaml.anchorName?`: names of nodes.
* `Sift.Yaml.tag?`: tags.
* `Sift.Yaml.directive?`: directives.
-/

set_option autoImplicit false

namespace Sift.Yaml

/-! ## Names of nodes -/

/-- The name behind the sign for a name or a reference. Some marks may follow it at once. -/
def anchorName? (p : Cursor) : Option (String × Cursor) :=
  let p := p.skip 1
  let name := p.rest.takeWhile isWordChar
  let next := p.skip name.length
  let marks := ['?', ':', ',', ']', '\x7d', '%', '@', Char.ofNat 96]
  if name.isEmpty then none
  else if endsWord next.rest ∨ next.rest.head?.any marks.contains then
    some (String.ofList name, next)
  else none

/-! ## Tags -/

/-- Whether a character may stand in a tag. Within angle brackets, some marks of collections may
stand there too. -/
def isTagChar (verbatim : Bool) (c : Char) : Bool :=
  isWordChar c ||
    [';', '/', '?', ':', '@', '&', '=', '+', '$', '.', '%', '!', '~', '*', '\'', '(',
      ')'].contains c ||
    (verbatim && [',', '[', ']'].contains c)

/-- How many octets the UTF-8 form of a character has, by its first octet. -/
def utf8Width? (octet : Nat) : Option Nat :=
  if octet < 0x80 then some 1
  else if octet < 0xC0 then none
  else if octet < 0xE0 then some 2
  else if octet < 0xF0 then some 3
  else if octet < 0xF8 then some 4
  else none

/-- The octet that a percent sign and two hexadecimal digits stand for. -/
def escapedOctet? : List Char → Option (Nat × List Char)
  | '%' :: a :: b :: rest => (Numeral.inRadix? 16 [a, b]).map fun n => (n, rest)
  | _ => none

/-- The octets of a tag at the start of a text, each as the character of its code, and the rest of
the text. Of a character that is written by its octets, `wanted` further ones have to follow. The
bound `fuel` is on the number of characters. -/
def tagOctets? (verbatim : Bool) : Nat → Nat → List Char → Option (List Char × List Char)
  | 0, _, _ => none
  | fuel + 1, wanted, cs =>
    match cs with
    | [] => if wanted = 0 then some ([], []) else none
    | c :: rest =>
      if wanted = 0 ∧ !isTagChar verbatim c then some ([], c :: rest)
      else if wanted ≠ 0 ∨ c = '%' then
        match escapedOctet? (c :: rest) with
        | none => none
        | some (octet, rest) =>
          let wanted :=
            if wanted = 0 then (utf8Width? octet).map (· - 1)
            else if 0x80 ≤ octet ∧ octet < 0xC0 then some (wanted - 1)
            else none
          wanted.bind fun wanted =>
            (tagOctets? verbatim fuel wanted rest).map fun (cs, tail) =>
              (Char.ofNat octet :: cs, tail)
      else (tagOctets? verbatim fuel 0 rest).map fun (cs, tail) => (c :: cs, tail)

/-- A tag or the rest of one at a place, which may be empty. -/
def tagText? (verbatim : Bool) (p : Cursor) : Option (List Char × Cursor) :=
  (tagOctets? verbatim (p.rest.length + 1) 0 p.rest).map fun (cs, tail) =>
    (cs, p.skip (p.rest.length - tail.length))

/-- A handle at a place: an exclamation mark, and a word with another one behind it. Without the
other one the word is not part of the handle. -/
def handleText? (p : Cursor) : Option (List Char × Cursor) :=
  match p.rest with
  | '!' :: rest =>
    let word := rest.takeWhile isWordChar
    if startsWith '!' (rest.drop word.length) then
      some ('!' :: word ++ ['!'], p.skip (word.length + 2))
    else some (['!'], p.skip 1)
  | _ => none

/-- A tag as its handle and what follows the handle. In angle brackets a tag has no handle; a single
exclamation mark is a tag without a handle, too. -/
def tagParts? (p : Cursor) : Option ((List Char × List Char) × Cursor) :=
  match p.rest with
  | '!' :: '<' :: _ =>
    match tagText? true (p.skip 2) with
    | none => none
    | some (text, p) =>
      if text.isEmpty ∨ !startsWith '>' p.rest then none else some (([], text), p.skip 1)
  | _ =>
    match handleText? p with
    | none => none
    | some (handle, next) =>
      match tagText? false next with
      | none => none
      | some (text, next) =>
        if handle = ['!'] then
          some (if text.isEmpty then ([], ['!']) else (['!'], text), next)
        else if text.isEmpty then none
        else some ((handle, text), next)

/-- A tag. A blank follows it, or, within collections in brackets or braces, a comma. -/
def tag? (inFlow : Bool) (p : Cursor) : Option (Token × Cursor) :=
  match tagParts? p with
  | none => none
  | some ((handle, text), p) =>
    if endsWord p.rest ∨ (inFlow ∧ startsWith ',' p.rest) then
      some (.tag (String.ofList handle) (String.ofList text), p)
    else none

/-! ## Directives -/

/-- A number of at most nine digits. -/
def versionNumber? (p : Cursor) : Option (Nat × Cursor) :=
  let ds := p.rest.takeWhile Numeral.isDigit
  if ds.isEmpty ∨ 9 < ds.length then none else some (Numeral.ofDigits ds, p.skip ds.length)

/-- The version of a text behind the name of the directive. -/
def version? (p : Cursor) : Option (Token × Cursor) :=
  match versionNumber? p.skipBlanks with
  | none => none
  | some (major, p) =>
    if startsWith '.' p.rest then
      (versionNumber? (p.skip 1)).map fun (minor, p) => (.version major minor, p)
    else none

/-- A handle and its meaning behind the name of the directive. -/
def handle? (p : Cursor) : Option (Token × Cursor) :=
  match handleText? p.skipBlanks with
  | none => none
  | some (name, p) =>
    if p.rest.head?.any isBlank then
      match tagText? true p.skipBlanks with
      | none => none
      | some (meaning, p) =>
        if meaning.isEmpty ∨ !endsWord p.rest then none
        else some (.handle (String.ofList name) (String.ofList meaning), p)
    else none

/-- A directive, with its line. -/
def directive? (p : Cursor) : Option (Token × Cursor) :=
  let p := p.skip 1
  let name := p.rest.takeWhile isWordChar
  let p := p.skip name.length
  let content :=
    if !endsWord p.rest then none
    else if name = ['Y', 'A', 'M', 'L'] then version? p
    else if name = ['T', 'A', 'G'] then handle? p
    else none
  content.bind fun (t, p) => p.finishLine?.map fun p => (t, p)

end Sift.Yaml
