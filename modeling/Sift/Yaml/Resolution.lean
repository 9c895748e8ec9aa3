import Sift.Configuration.Content
import Sift.Number.Numeral
import Sift.Yaml.Node

/-!
# What scalars of YAML stand for

A scalar without quotes may stand for null, a truth value or a number; which of them it is follows
from its text. A tag may say what it has to be.

## Main definitions

* `Sift.Yaml.Resolution.ofPlain?`: what a scalar without quotes stands for.
* `Sift.Yaml.Resolution.ofScalar?`: what any scalar stands for.
-/

set_option autoImplicit false

namespace Sift.Yaml.Resolution

/-- The words for null. -/
def isNull (s : String) : Bool := ["~", "null", "Null", "NULL"].contains s

/-- The truth value of a word. -/
def bool? (s : String) : Option Bool :=
  if ["true", "True", "TRUE"].contains s then some true
  else if ["false", "False", "FALSE"].contains s then some false
  else none

/-- The magnitude of an integer without its sign, in one of four radices. A zero in front of
further decimal digits does not make an integer. -/
def magnitude? : List Char → Option Nat
  | '0' :: 'x' :: ds => Numeral.inRadix? 16 ds
  | '0' :: 'o' :: ds => Numeral.inRadix? 8 ds
  | '0' :: 'b' :: ds => Numeral.inRadix? 2 ds
  | '0' :: _ :: _ => none
  | ds => Numeral.digits? ds

/-- An integer: none where the text is not one or has more than 128 bits, and otherwise a content
if it fits 64 bits. -/
def integer? (s : String) : Option (Option Content) :=
  let (negative, rest) := Numeral.splitSign s.toList
  match magnitude? rest with
  | none => none
  | some n =>
    if negative then
      if (n : Int) ≤ -Int64.minValue.toInt then some (some (.int (-(n : Int))))
      else if n ≤ Nat.pow 2 127 then some none
      else none
    else if n < UInt64.size then some (some (.nat n))
    else if n < Nat.pow 2 128 then some none
    else none

/-- Whether a text is a zero in front of further digits. -/
def isPaddedInteger (s : String) : Bool :=
  match (Numeral.splitSign s.toList).2 with
  | '0' :: d :: rest => (d :: rest).all Numeral.isDigit
  | _ => false

/-- The floating-point number that a text spells. Numbers that are too large are none. -/
def floating? (s : String) : Option Double :=
  let cs := s.toList
  let (negative, rest) := Numeral.splitSign cs
  let word := String.ofList rest
  if [".inf", ".Inf", ".INF"].contains word then some (Floating.infinity negative)
  else if [".nan", ".NaN", ".NAN"].contains s then some (Floating.notANumber false)
  else
    match (Numeral.floating? cs : Option Double) with
    | some x => if x.isFinite ∧ (Numeral.splitSign rest).2 = rest then some x else none
    | none => none

/-- What a scalar without quotes stands for: null, a truth value, a number, or its own text.
Integers of more than 64 and up to 128 bits stand for nothing. -/
def ofPlain? (s : String) : Option Content :=
  if s.isEmpty ∨ isNull s then some .null
  else
    match bool? s, integer? s with
    | some b, _ => some (.bool b)
    | none, some x => x
    | none, none =>
      if isPaddedInteger s then some (.text s)
      else
        match floating? s with
        | some x => some (.double x)
        | none => some (.text s)

/-! ## Tags -/

/-- The tag of null. -/
def nullTag : String := "tag:yaml.org,2002:null"

/-- The tag of truth values. -/
def boolTag : String := "tag:yaml.org,2002:bool"

/-- The tag of integers. -/
def intTag : String := "tag:yaml.org,2002:int"

/-- The tag of floating-point numbers. -/
def floatTag : String := "tag:yaml.org,2002:float"

/-- Whether a tag is one that its text defines. No content has such a tag. -/
def isPrivate (tag : Option String) : Bool := tag.any fun t => t.toList.head? = some '!'

/-- What a scalar stands for. A scalar with quotes is its own text, and so is one with a tag other
than those of null, truth values and numbers. -/
def ofScalar? (text : String) (style : Style) (tag : Option String) : Option Content :=
  match tag with
  | none => if style = .plain then ofPlain? text else some (.text text)
  | some tag =>
    if isPrivate tag then none
    else if tag = boolTag then (bool? text).map .bool
    else if tag = intTag then (integer? text).join
    else if tag = floatTag then (floating? text).map .double
    else if tag = nullTag then if isNull text then some .null else none
    else some (.text text)

/-- Whether a scalar stands for an absent value. A scalar with the tag of null has to. -/
def isAbsent? (text : String) (style : Style) (tag : Option String) : Option Bool :=
  if style ≠ .plain then some false
  else if tag = some nullTag then if isNull text then some true else none
  else some (tag = none ∧ (text.isEmpty ∨ isNull text))

/-- A natural number of 64 bits. Its scalar has no quotes, or is a block with the tag of
integers. -/
def count? (text : String) (style : Style) (tag : Option String) : Option Nat :=
  if style = .plain ∨ (style = .literal ∧ tag = some intTag) then
    match integer? text with
    | some (some (.nat n)) => some n
    | _ => none
  else none

end Sift.Yaml.Resolution
