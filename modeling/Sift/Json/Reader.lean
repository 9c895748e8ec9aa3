import Sift.Json.Basic
import Sift.Number.Numeral

/-!
# Reading JSON text

`Json.read?` reads a whole text as one document. The reader descends into arrays and objects with
a bound on the depth that the length of the text supplies, so that it never runs out on a text
that is a document.

## Main definitions

* `Sift.Json.read?`: the document that a text spells, if it spells one.
-/

set_option autoImplicit false

namespace Sift.Json

/-- The blanks that may stand between the parts of a document. -/
def isBlank (c : Char) : Bool := c = ' ' || c = '\t' || c = '\n' || c = '\r'

/-- The rest of a string after its opening quote: the characters read so far are in `acc`, last
one first. Two escapes of surrogates together stand for one character; a lone one stands for
none. -/
def readString (acc : List Char) : List Char → Option (String × List Char)
  | [] => none
  | '"' :: rest => some (String.ofList acc.reverse, rest)
  | '\\' :: 'u' :: a :: b :: c :: d :: '\\' :: 'u' :: a' :: b' :: c' :: d' :: rest =>
    match Numeral.inRadix? 16 [a, b, c, d] with
    | none => none
    | some high =>
      if 0xD800 ≤ high ∧ high < 0xDC00 then
        match Numeral.inRadix? 16 [a', b', c', d'] with
        | none => none
        | some low =>
          if 0xDC00 ≤ low ∧ low < 0xE000 then
            let code := 0x10000 + (high - 0xD800) * 0x400 + (low - 0xDC00)
            readString (Char.ofNat code :: acc) rest
          else none
      else if 0xDC00 ≤ high ∧ high < 0xE000 then none
      else readString (Char.ofNat high :: acc) ('\\' :: 'u' :: a' :: b' :: c' :: d' :: rest)
  | '\\' :: 'u' :: a :: b :: c :: d :: rest =>
    match Numeral.inRadix? 16 [a, b, c, d] with
    | none => none
    | some code =>
      if 0xD800 ≤ code ∧ code < 0xE000 then none
      else readString (Char.ofNat code :: acc) rest
  | '\\' :: c :: rest =>
    match c with
    | '"' => readString ('"' :: acc) rest
    | '\\' => readString ('\\' :: acc) rest
    | '/' => readString ('/' :: acc) rest
    | 'b' => readString (Char.ofNat 8 :: acc) rest
    | 'f' => readString (Char.ofNat 12 :: acc) rest
    | 'n' => readString ('\n' :: acc) rest
    | 'r' => readString ('\r' :: acc) rest
    | 't' => readString ('\t' :: acc) rest
    | _ => none
  | c :: rest => if c.toNat < 32 then none else readString (c :: acc) rest

/-- Whether a character can be part of a number. -/
def isNumberChar (c : Char) : Bool :=
  Numeral.isDigit c || c = '-' || c = '+' || c = '.' || c = 'e' || c = 'E'

/-- Whether digits are a whole part as JSON writes it: without a zero in front of others. -/
def isWholePart : List Char → Bool
  | [] => false
  | '0' :: rest => rest.isEmpty
  | ds => ds.all Numeral.isDigit

/-- The number that a run of number characters spells. -/
def number? (cs : List Char) : Option Json :=
  let (negative, rest) := match cs with
    | '-' :: rest => (true, rest)
    | _ => (false, cs)
  let whole := rest.takeWhile Numeral.isDigit
  let tail := rest.dropWhile Numeral.isDigit
  if !isWholePart whole then none
  else
    let floating := match tail with
      | '.' :: d :: _ => if Numeral.isDigit d then Numeral.scientific? rest else none
      | '.' :: [] => none
      | _ => Numeral.scientific? rest
    match floating with
    | none => none
    | some (coefficient, exponent) =>
      let n : Int := if negative then -(coefficient : Int) else coefficient
      if tail = [] ∧ Int64.minValue.toInt ≤ n ∧ n < UInt64.size ∧ ¬(negative ∧ coefficient = 0) then
        some (int n)
      else
        let x : Double := Floating.ofDecimal negative coefficient exponent
        if x.isFinite then some (double x) else none

/-- Drops a word from the front of a text. -/
def dropWord? : List Char → List Char → Option (List Char)
  | [], cs => some cs
  | _ :: _, [] => none
  | w :: ws, c :: cs => if w = c then dropWord? ws cs else none

mutual

/-- Reads one document from the front of a text and returns what follows it. -/
def readValue : Nat → List Char → Option (Json × List Char)
  | 0, _ => none
  | fuel + 1, cs =>
    match cs.dropWhile isBlank with
    | [] => none
    | '"' :: rest => (readString [] rest).map fun (s, rest) => (str s, rest)
    | '[' :: rest =>
      match rest.dropWhile isBlank with
      | ']' :: rest => some (arr [], rest)
      | rest => readItems fuel [] rest
    | '\x7b' :: rest =>
      match rest.dropWhile isBlank with
      | '\x7d' :: rest => some (obj [], rest)
      | rest => readMembers fuel [] rest
    | 'n' :: rest => (dropWord? ['u', 'l', 'l'] rest).map fun rest => (null, rest)
    | 't' :: rest => (dropWord? ['r', 'u', 'e'] rest).map fun rest => (bool true, rest)
    | 'f' :: rest => (dropWord? ['a', 'l', 's', 'e'] rest).map fun rest => (bool false, rest)
    | c :: rest =>
      if isNumberChar c then
        (number? (c :: rest.takeWhile isNumberChar)).map fun x =>
          (x, rest.dropWhile isNumberChar)
      else none

/-- Reads the elements of an array up to its closing bracket; `acc` holds those read so far, last
one first. -/
def readItems : Nat → List Json → List Char → Option (Json × List Char)
  | 0, _, _ => none
  | fuel + 1, acc, cs =>
    match readValue fuel cs with
    | none => none
    | some (x, rest) =>
      match rest.dropWhile isBlank with
      | ',' :: rest => readItems fuel (x :: acc) rest
      | ']' :: rest => some (arr (x :: acc).reverse, rest)
      | _ => none

/-- Reads the members of an object up to its closing brace; a later member replaces an earlier
one of the same name. -/
def readMembers : Nat → Table Json → List Char → Option (Json × List Char)
  | 0, _, _ => none
  | fuel + 1, acc, cs =>
    match cs.dropWhile isBlank with
    | '"' :: rest =>
      match readString [] rest with
      | none => none
      | some (key, rest) =>
        match rest.dropWhile isBlank with
        | ':' :: rest =>
          match readValue fuel rest with
          | none => none
          | some (x, rest) =>
            let acc := Table.insert key x acc
            match rest.dropWhile isBlank with
            | ',' :: rest => readMembers fuel acc rest
            | '\x7d' :: rest => some (obj acc, rest)
            | _ => none
        | _ => none
    | _ => none

end

/-- The document that a whole text spells. -/
def read? (text : String) : Option Json :=
  let cs := text.toList
  match readValue (cs.length + 1) cs with
  | some (x, rest) => if rest.all isBlank then some x else none
  | none => none

end Sift.Json
