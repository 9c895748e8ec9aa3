import Sift.Number.Decimal
import Sift.Table

/-!
# JSON documents

The tree of a JSON document. A number is an integer when it was written without fraction and
exponent and fits the range that the reader admits, and a floating-point number otherwise. The
members of an object are a table, so that two objects with the same members are the same.

## Main definitions

* `Sift.Json`: documents.
* `Sift.Json.render`: the text of a document, without blanks.
-/

set_option autoImplicit false

namespace Sift

/-- A JSON document. -/
inductive Json where
  | null
  | bool (value : Bool)
  | int (value : Int)
  | double (value : Double)
  | str (value : String)
  | arr (items : List Json)
  | obj (members : List (String × Json))
deriving Inhabited

namespace Json

/-- The text of a document that is a string. -/
def text? : Json → Option String
  | str s => some s
  | _ => none

/-- The text of a document that is not itself null, or null where the value is absent. -/
def ofOption {α : Type} (encode : α → Json) : Option α → Json
  | none => null
  | some x => encode x

/-- The escaped form of one character inside a JSON string. -/
def escape (c : Char) : List Char :=
  match c with
  | '"' => ['\\', '"']
  | '\\' => ['\\', '\\']
  | '\n' => ['\\', 'n']
  | '\r' => ['\\', 'r']
  | '\t' => ['\\', 't']
  | c =>
    if c.toNat = 8 then ['\\', 'b']
    else if c.toNat = 12 then ['\\', 'f']
    else if c.toNat < 32 then
      let digits := Nat.toDigits 16 c.toNat
      '\\' :: 'u' :: (List.replicate (4 - digits.length) '0' ++ digits)
    else [c]

/-- The text of a JSON string, quotes included. -/
def renderString (s : String) : String :=
  "\"" ++ String.ofList (s.toList.flatMap escape) ++ "\""

mutual

/-- The text of a document, without blanks. Numbers without a decimal text are null. -/
def render : Json → String
  | null => "null"
  | bool b => if b then "true" else "false"
  | int n => toString n
  | double x => if x.isFinite then x.render NumberStyle.json64 else "null"
  | str s => renderString s
  | arr items => "[" ++ renderItems items ++ "]"
  | obj members => "\x7b" ++ renderMembers members ++ "\x7d"

/-- The texts of array elements, separated by commas. -/
def renderItems : List Json → String
  | [] => ""
  | [x] => render x
  | x :: rest => render x ++ "," ++ renderItems rest

/-- The texts of object members, separated by commas. -/
def renderMembers : List (String × Json) → String
  | [] => ""
  | [(k, x)] => renderString k ++ ":" ++ render x
  | (k, x) :: rest => renderString k ++ ":" ++ render x ++ "," ++ renderMembers rest

end

end Json

end Sift
