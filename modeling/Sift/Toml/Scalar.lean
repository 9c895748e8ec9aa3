import Sift.Json.Basic
import Sift.Number.Numeral
import Sift.Text.Basic
import Sift.Time.Instant

/-!
# Scalars in TOML

Strings, numbers, truth values and dates as they are written in TOML. A reader takes the scalar
from the front of a text and returns what follows it.

## Main definitions

* `Sift.Toml.string?`: strings in one of the four kinds of quotes.
* `Sift.Toml.number?`: integers and floating-point numbers.
* `Sift.Toml.moment?`: dates, times of day, and both together.
-/

set_option autoImplicit false

namespace Sift.Toml

/-- Blanks within a line. -/
def isBlank (c : Char) : Bool := c = ' ' || c = '\t'

/-- Whether a character may stand in comments and in strings of one line. -/
def isPrintable (c : Char) : Bool := c = '\t' || (' ' ≤ c && c.toNat ≠ 127)

/-- Drops the end of a line. -/
def newline? : List Char → Option (List Char)
  | '\n' :: rest => some rest
  | '\r' :: '\n' :: rest => some rest
  | _ => none

/-! ## Strings -/

/-- The character with a code, if there is one. -/
def charOf? (n : Nat) : Option Char := if n.isValidChar then some (Char.ofNat n) else none

/-- The character of an escape after its backslash. -/
def escape? : List Char → Option (Char × List Char)
  | 'b' :: rest => some (Char.ofNat 8, rest)
  | 't' :: rest => some ('\t', rest)
  | 'n' :: rest => some ('\n', rest)
  | 'f' :: rest => some (Char.ofNat 12, rest)
  | 'r' :: rest => some ('\r', rest)
  | '"' :: rest => some ('"', rest)
  | '\\' :: rest => some ('\\', rest)
  | 'u' :: rest => hex? 4 rest
  | 'U' :: rest => hex? 8 rest
  | _ => none
where
  /-- A character by its code in so many hexadecimal digits. -/
  hex? (width : Nat) (cs : List Char) : Option (Char × List Char) :=
    if cs.length < width then none
    else ((Numeral.inRadix? 16 (cs.take width)).bind charOf?).map fun c => (c, cs.drop width)

/-- The rest of a string of one line after its opening quote. Escapes are read in strings with
double quotes. The bound `fuel` is on the number of characters; those read so far are in `acc`, last
one first. -/
def line? (quote : Char) : Nat → List Char → List Char → Option (String × List Char)
  | 0, _, _ => none
  | fuel + 1, acc, cs =>
    match cs with
    | [] => none
    | c :: rest =>
      if c = quote then some (String.ofList acc.reverse, rest)
      else if c = '\\' ∧ quote = '"' then
        match escape? rest with
        | some (e, rest) => line? quote fuel (e :: acc) rest
        | none => none
      else if isPrintable c then line? quote fuel (c :: acc) rest
      else none

/-- Drops blanks and ends of lines. -/
def dropLines : List Char → List Char
  | '\r' :: '\n' :: rest => dropLines rest
  | c :: rest => if isBlank c ∨ c = '\n' then dropLines rest else c :: rest
  | [] => []

/-- What follows a backslash at the end of a line, if it stands there: the next character that is
no blank. -/
def continued? (cs : List Char) : Option (List Char) :=
  (newline? (cs.dropWhile isBlank)).map dropLines

/-- The rest of a string of several lines after its opening quotes. Up to two quotes may stand
before the closing ones. -/
def lines? (quote : Char) : Nat → List Char → List Char → Option (String × List Char)
  | 0, _, _ => none
  | fuel + 1, acc, cs =>
    match newline? cs with
    | some rest => lines? quote fuel ('\n' :: acc) rest
    | none =>
      match cs with
      | [] => none
      | c :: rest =>
        if c = quote then
          let quotes := (c :: rest).takeWhile fun d => d = quote
          let more := min quotes.length 5 - 3
          if 3 ≤ quotes.length then
            some (String.ofList (acc.reverse ++ List.replicate more quote), cs.drop (more + 3))
          else lines? quote fuel (c :: acc) rest
        else if c = '\\' ∧ quote = '"' then
          match continued? rest with
          | some rest => lines? quote fuel acc rest
          | none =>
            match escape? rest with
            | some (e, rest) => lines? quote fuel (e :: acc) rest
            | none => none
        else if isPrintable c then lines? quote fuel (c :: acc) rest
        else none

/-- A string of one line. -/
def lineString? : List Char → Option (String × List Char)
  | '"' :: rest => line? '"' (rest.length + 1) [] rest
  | '\'' :: rest => line? '\'' (rest.length + 1) [] rest
  | _ => none

/-- A string of one or several lines. The end of the line after the opening quotes does not
count. -/
def string? (cs : List Char) : Option (String × List Char) :=
  let body (rest : List Char) := (newline? rest).getD rest
  match cs with
  | '"' :: '"' :: '"' :: rest => lines? '"' (rest.length + 1) [] (body rest)
  | '\'' :: '\'' :: '\'' :: rest => lines? '\'' (rest.length + 1) [] (body rest)
  | cs => lineString? cs

/-! ## Numbers -/

/-- Digits, between which single underscores may stand, without the underscores. -/
def digits (isDigit : Char → Bool) : List Char → Option (List Char × List Char)
  | c :: rest =>
    if isDigit c then
      match rest with
      | '_' :: d :: rest =>
        (digits isDigit (d :: rest)).map fun (ds, tail) => (c :: ds, tail)
      | '_' :: [] => none
      | d :: rest =>
        if isDigit d then (digits isDigit (d :: rest)).map fun (ds, tail) => (c :: ds, tail)
        else some ([c], d :: rest)
      | [] => some ([c], [])
    else none
  | [] => none

/-- Digits without a zero in front of others. -/
def wholePart? (cs : List Char) : Option (List Char × List Char) :=
  match cs with
  | '0' :: rest => some (['0'], rest)
  | cs => digits Numeral.isDigit cs

/-- A fraction with its point, if there is one. -/
def fraction? : List Char → Option (List Char × List Char)
  | '.' :: rest => (digits Numeral.isDigit rest).map fun (ds, tail) => ('.' :: ds, tail)
  | cs => some ([], cs)

/-- An exponent with its letter, if there is one. -/
def exponent? : List Char → Option (List Char × List Char)
  | c :: rest =>
    if c = 'e' ∨ c = 'E' then
      let (negative, ds) := Numeral.splitSign rest
      (digits Numeral.isDigit ds).map fun (ds, tail) =>
        ('e' :: (if negative then '-' :: ds else ds), tail)
    else some ([], c :: rest)
  | [] => some ([], [])

/-- An integer of 64 bits. -/
def integerOf? (negative : Bool) (n : Nat) : Option Json :=
  let value : Int := if negative then -(n : Int) else n
  if Int64.minValue.toInt ≤ value ∧ value ≤ Int64.maxValue.toInt then some (.int value) else none

/-- An integer in a radix other than ten. -/
def radixInteger? (radix : Nat) (cs : List Char) : Option (Json × List Char) :=
  match digits (fun c => (Numeral.digitIn? radix c).isSome) cs with
  | some (ds, tail) =>
    ((Numeral.inRadix? radix ds).bind (integerOf? false)).map fun x => (x, tail)
  | none => none

/-- A decimal number: an integer, unless there is a fraction or an exponent. Numbers beyond the
range of positive floating-point numbers are refused. -/
def decimal? (negative : Bool) (cs : List Char) : Option (Json × List Char) :=
  match wholePart? cs with
  | none => none
  | some (whole, tail) =>
    match fraction? tail with
    | none => none
    | some (fraction, tail) =>
      match exponent? tail with
      | none => none
      | some (exponent, tail) =>
        if fraction.isEmpty && exponent.isEmpty then
          (integerOf? negative (Numeral.ofDigits whole)).map fun x => (x, tail)
        else
          match Numeral.scientific? (whole ++ fraction ++ exponent) with
          | some (c, e) =>
            let x : Double := Floating.ofDecimal negative c e
            if x = Floating.infinity false then none else some (.double x, tail)
          | none => none

/-- A number. The sign of a number in a radix other than ten is refused. -/
def number? (cs : List Char) : Option (Json × List Char) :=
  match cs with
  | '0' :: 'x' :: rest => radixInteger? 16 rest
  | '0' :: 'o' :: rest => radixInteger? 8 rest
  | '0' :: 'b' :: rest => radixInteger? 2 rest
  | cs =>
    let (negative, rest) := Numeral.splitSign cs
    match Text.dropFront? ['i', 'n', 'f'] rest, Text.dropFront? ['n', 'a', 'n'] rest with
    | some tail, _ => some (.double (Floating.infinity negative), tail)
    | _, some tail => some (.double (Floating.notANumber negative), tail)
    | none, none => decimal? negative rest

/-! ## Dates -/

/-- A number of exactly so many digits within bounds. -/
def field? (width lo hi : Nat) (cs : List Char) : Option (Nat × List Char) :=
  let ds := cs.take width
  if ds.length = width ∧ ds.all Numeral.isDigit then
    let n := Numeral.ofDigits ds
    if lo ≤ n ∧ n ≤ hi then some (n, cs.drop width) else none
  else none

/-- Drops a character. -/
def char? (c : Char) : List Char → Option (List Char)
  | d :: rest => if c = d then some rest else none
  | [] => none

/-- A date. -/
def date? (cs : List Char) : Option (Date × List Char) := do
  let (y, cs) ← field? 4 0 9999 cs
  let cs ← char? '-' cs
  let (m, cs) ← field? 2 1 12 cs
  let cs ← char? '-' cs
  let (d, cs) ← field? 2 1 31 cs
  if (d : Int) ≤ Date.daysInMonth y m then some (⟨y, m, d⟩, cs) else none

/-- The text of a fraction of a second without zeros at the end, of which nine digits count. -/
def fractionText (ds : List Char) : String :=
  let kept := ((ds.take 9).reverse.dropWhile fun c => c = '0').reverse
  if kept.isEmpty then "" else "." ++ String.ofList kept

/-- A time of day as its text. -/
def time? (cs : List Char) : Option (String × List Char) := do
  let (h, cs) ← field? 2 0 23 cs
  let cs ← char? ':' cs
  let (m, cs) ← field? 2 0 59 cs
  let cs ← char? ':' cs
  let (s, cs) ← field? 2 0 60 cs
  let clock := Date.padded 2 h ++ ":" ++ Date.padded 2 m ++ ":" ++ Date.padded 2 s
  match cs with
  | '.' :: rest =>
    let ds := rest.takeWhile Numeral.isDigit
    if ds.isEmpty then none
    else some (clock ++ fractionText ds, rest.dropWhile Numeral.isDigit)
  | cs => some (clock, cs)

/-- A distance from UTC as its text, empty if there is none. No distance has a plus sign. -/
def offset? (cs : List Char) : Option (String × List Char) :=
  match cs with
  | c :: rest =>
    if c = 'Z' ∨ c = 'z' then some ("Z", rest)
    else if c = '+' ∨ c = '-' then do
      let (h, cs) ← field? 2 0 23 rest
      let cs ← char? ':' cs
      let (m, cs) ← field? 2 0 59 cs
      let sign := if c = '-' ∧ 0 < h + m then "-" else "+"
      some (sign ++ Date.padded 2 h ++ ":" ++ Date.padded 2 m, cs)
    else some ("", cs)
  | [] => some ("", [])

/-- A time of day and a distance from UTC after the mark that separates them from a date. A blank
separates only if a digit follows. -/
def timeOfDate? (cs : List Char) : Option (String × List Char) :=
  let read (rest : List Char) : Option (String × List Char) := do
    let (t, cs) ← time? rest
    let (o, cs) ← offset? cs
    some ("T" ++ t ++ o, cs)
  match cs with
  | 'T' :: rest | 't' :: rest => read rest
  | ' ' :: d :: rest => if Numeral.isDigit d then read (d :: rest) else some ("", cs)
  | cs => some ("", cs)

/-- The member that marks a date as such. -/
def momentKey : String := "$__toml_private_datetime"

/-- A date, a time of day, or both, as a document. -/
def moment? (cs : List Char) : Option (Json × List Char) :=
  let mark (s : String) : Json := .obj [(momentKey, .str s)]
  match date? cs with
  | some (d, cs) => (timeOfDate? cs).map fun (t, cs) => (mark (d.toText ++ t), cs)
  | none => (time? cs).map fun (t, cs) => (mark t, cs)

/-- Whether a text starts like a date or a time of day. -/
def startsMoment (cs : List Char) : Bool :=
  let ds := cs.takeWhile Numeral.isDigit
  match cs.dropWhile Numeral.isDigit with
  | '-' :: _ => ds.length = 4
  | ':' :: _ => ds.length = 2
  | _ => false

end Sift.Toml
