import Sift.Number.Numeral
import Sift.Text.Basic
import Sift.Value.Basic

/-!
# Coercions between scalar values

Equality and range tests convert a literal to the type of the record value. Each coercion gives
nothing where the value has no counterpart in the wanted type; the caller decides what then.

## Main definitions

* `Sift.Value.toBool?`, `Sift.Value.toInt?`, `Sift.Value.toLong?`, `Sift.Value.toFloat?`,
  `Sift.Value.toDouble?`: the coercions.
* `Sift.Value.coerceLike`: the coercion to the type of another value.
-/

set_option autoImplicit false

namespace Sift

namespace Floating

variable {f : BinaryFormat}

/-- A finite number without its fraction as a 64-bit integer; numbers beyond the range become
the end of the range on their side. -/
def toInt64? (x : Floating f) : Option Int64 :=
  if x.isFinite then
    some (Int64.ofInt (x.clampWith truncate Int64.minValue.toInt Int64.maxValue.toInt))
  else none

/-- A finite number without its fraction as a 32-bit integer; numbers beyond the range become
the end of the range on their side. -/
def toInt32? (x : Floating f) : Option Int32 :=
  if x.isFinite then
    some (Int32.ofInt (x.clampWith truncate Int32.minValue.toInt Int32.maxValue.toInt))
  else none

end Floating

namespace Value

/-- Booleans, their names in any case, and integers, of which zero is false. -/
def toBool? : Value → Option Bool
  | bool b => some b
  | str s =>
    let word := String.ofList ((Text.trimChars s.toList).map Numeral.asciiLower)
    if word = "true" then some true else if word = "false" then some false else none
  | int n => some (n != 0)
  | long n => some (n != 0)
  | _ => none

/-- Integers, finite numbers without their fraction, and the texts of both. -/
def toLong? : Value → Option Int64
  | int n => some n.toInt64
  | long n => some n
  | float x => x.toInt64?
  | double x => x.toInt64?
  | str s =>
    let cs := Text.trimChars s.toList
    match Numeral.int64? cs with
    | some n => some n
    | none =>
      match (Numeral.floating? cs : Option Double) with
      | some x => x.toInt64?
      | none => none
  | _ => none

/-- Finite numbers without their fraction, and whatever is a long in the range of an int. -/
def toInt? : Value → Option Int32
  | int n => some n
  | float x => x.toInt32?
  | double x => x.toInt32?
  | v =>
    match v.toLong? with
    | some n =>
      if Int32.minValue.toInt ≤ n.toInt ∧ n.toInt ≤ Int32.maxValue.toInt then
        some (Int32.ofInt n.toInt)
      else none
    | none => none

/-- Numbers of all widths and their texts. -/
def toDouble? : Value → Option Double
  | int n => some (Floating.ofInt n.toInt)
  | long n => some (Floating.ofInt n.toInt)
  | float x => some (Floating.convert x)
  | double x => some x
  | str s => Numeral.floating? (Text.trimChars s.toList)
  | _ => none

/-- Numbers of all widths and their texts, rounded to 32 bits. -/
def toFloat? (v : Value) : Option Single := v.toDouble?.map Floating.convert

/-- A literal in the type of a sample that is a boolean or a number. -/
def coerceLike (literal sample : Value) : Option Value :=
  match sample with
  | bool _ => literal.toBool?.map bool
  | int _ => literal.toInt?.map int
  | long _ => literal.toLong?.map long
  | float _ => literal.toFloat?.map float
  | double _ => literal.toDouble?.map double
  | _ => none

end Value

end Sift
