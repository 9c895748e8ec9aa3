import Sift.Value.Coerce

/-!
# Orders on values

A record value is compared with a bound in the type of the record value. Result sets are sorted by
an order on all values: numbers, then strings, booleans and compound values, and nulls last.

## Main definitions

* `Sift.Value.compareBound`: a record value against a bound.
* `Sift.Value.sortOrder`: the order of result sets.
* `Sift.Value.matchesTerm`: equality of a record value with a query literal.
-/

set_option autoImplicit false

namespace Sift.Value

/-- Compares two values by their texts. -/
def compareTexts (a b : Value) : Ordering := compare a.toText b.toText

/-- Compares a record value with a bound. The bound is converted to the type of the record value
first; where that fails, and for values that are neither strings nor numbers, both are compared
by their texts. Null lies below every bound. -/
def compareBound (a b : Value) : Ordering :=
  match a with
  | null => .lt
  | str s => compare s b.toText
  | int n =>
    match b.toInt? with
    | some m => compare n.toInt m.toInt
    | none => compareTexts a b
  | long n =>
    match b.toLong? with
    | some m => compare n.toInt m.toInt
    | none => compareTexts a b
  | float x =>
    match b.toFloat? with
    | some y => x.totalCompare y
    | none => compareTexts a b
  | double x =>
    match b.toDouble? with
    | some y => x.totalCompare y
    | none => compareTexts a b
  | _ => compareTexts a b

/-- The place of a type among the others in sorted results. -/
def sortRank : Value → Nat
  | int _ | long _ | float _ | double _ => 0
  | str _ => 1
  | bool _ => 2
  | list _ | map _ => 3
  | null => 4

/-- The value of an integer of either width. -/
def integer? : Value → Option Int
  | int n => some n.toInt
  | long n => some n.toInt
  | _ => none

/-- The order of result sets. Integers are compared exactly, other pairs of numbers as doubles,
and compound values by their texts. -/
def sortOrder (a b : Value) : Ordering :=
  (compare a.sortRank b.sortRank).then <|
    match a, b with
    | null, null => .eq
    | str x, str y => compare x y
    | bool x, bool y => compare x y
    | a, b =>
      match a.integer?, b.integer? with
      | some x, some y => compare x y
      | _, _ =>
        if a.isNumber then
          match a.toDouble?, b.toDouble? with
          | some x, some y => x.totalCompare y
          | _, _ => .eq
        else compareTexts a b

/-- Whether a record value equals a query literal. Booleans and numbers are compared after
conversion of the literal, null equals only null, and other values are compared by their texts. -/
def matchesTerm (value term : Value) : Bool :=
  match value with
  | null => term.isNull
  | bool _ | int _ | long _ | float _ | double _ =>
    match coerceLike term value with
    | some t => t.same value
    | none => false
  | _ => !term.isNull && value.toText == term.toText

end Sift.Value
