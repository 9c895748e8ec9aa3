import Sift.Json.Basic

/-!
# Values

The values that flow through queries, records and results. The width of a number is kept, because
a record value decides by its own type how it is compared with a bound.

## Main definitions

* `Sift.Value`: values.
* `Sift.Value.ofJson`, `Sift.Value.toJson`: the values of JSON documents.
* `Sift.Value.toText`: the text of a value, by which values of different types are compared.
* `Sift.Value.serialize`: the JSON text of a value, where each number has the digits of its own
  width.
-/

set_option autoImplicit false

namespace Sift

/-- A dynamic value. -/
inductive Value where
  | null
  | bool (value : Bool)
  | int (value : Int32)
  | long (value : Int64)
  | float (value : Single)
  | double (value : Double)
  | str (value : String)
  | list (items : List Value)
  | map (members : List (String × Value))
deriving Inhabited

namespace Value

/-- Whether the value is null. -/
def isNull : Value → Bool
  | null => true
  | _ => false

/-- Whether the value is a number of any width. -/
def isNumber : Value → Bool
  | int _ | long _ | float _ | double _ => true
  | _ => false

/-- The text of a value that is a string. -/
def text? : Value → Option String
  | str s => some s
  | _ => none

/-- The name of the type of a value. -/
def typeName : Value → String
  | null => "null"
  | bool _ => "bool"
  | int _ => "int"
  | long _ => "long"
  | float _ => "float"
  | double _ => "double"
  | str _ => "string"
  | list _ => "list"
  | map _ => "map"

mutual

/-- The JSON document of a value. Infinities and not-a-numbers become null. -/
def toJson : Value → Json
  | null => .null
  | bool b => .bool b
  | int n => .int n.toInt
  | long n => .int n.toInt
  | float x => if x.isFinite then .double (Floating.convert x) else .null
  | double x => if x.isFinite then .double x else .null
  | str s => .str s
  | list items => .arr (toJsonItems items)
  | map members => .obj (toJsonMembers members)

/-- The JSON documents of list elements. -/
def toJsonItems : List Value → List Json
  | [] => []
  | v :: rest => toJson v :: toJsonItems rest

/-- The JSON documents of map members. -/
def toJsonMembers : List (String × Value) → List (String × Json)
  | [] => []
  | (k, v) :: rest => (k, toJson v) :: toJsonMembers rest

end

/-- The value of a JSON number without fraction: a long where it fits, a double otherwise. -/
def ofInt (n : Int) : Value :=
  if Int64.minValue.toInt ≤ n ∧ n ≤ Int64.maxValue.toInt then long (Int64.ofInt n)
  else double (Floating.ofInt n)

mutual

/-- The value of a JSON document. Numbers without a JSON text are null, as they are in that text. -/
def ofJson : Json → Value
  | .null => null
  | .bool b => bool b
  | .int n => ofInt n
  | .double x => if x.isFinite then double x else null
  | .str s => str s
  | .arr items => list (ofJsonItems items)
  | .obj members => map (ofJsonMembers members)

/-- The values of array elements. -/
def ofJsonItems : List Json → List Value
  | [] => []
  | x :: rest => ofJson x :: ofJsonItems rest

/-- The values of object members. -/
def ofJsonMembers : List (String × Json) → List (String × Value)
  | [] => []
  | (k, x) :: rest => (k, ofJson x) :: ofJsonMembers rest

end

/-- The text of a value: strings as they are, numbers without exponent, and compound values as
JSON. -/
def toText : Value → String
  | null => "null"
  | bool b => if b then "true" else "false"
  | int n => toString n.toInt
  | long n => toString n.toInt
  | float x => x.toText
  | double x => x.toText
  | str s => s
  | v => v.toJson.render

mutual

/-- The JSON text of a value, where a float has the digits of its own width. -/
def serialize : Value → String
  | float x => if x.isFinite then x.render NumberStyle.json32 else "null"
  | list items => "[" ++ serializeItems items ++ "]"
  | map members => "\x7b" ++ serializeMembers members ++ "\x7d"
  | v => v.toJson.render

/-- The texts of list elements, separated by commas. -/
def serializeItems : List Value → String
  | [] => ""
  | [v] => serialize v
  | v :: rest => serialize v ++ "," ++ serializeItems rest

/-- The texts of map members, separated by commas. -/
def serializeMembers : List (String × Value) → String
  | [] => ""
  | [(k, v)] => Json.renderString k ++ ":" ++ serialize v
  | (k, v) :: rest =>
    Json.renderString k ++ ":" ++ serialize v ++ "," ++ serializeMembers rest

end

mutual

/-- Equality of values of the same type, where numbers are compared as numbers: the two zeros are
equal and a not-a-number equals nothing. -/
def same : Value → Value → Bool
  | null, null => true
  | bool a, bool b => a == b
  | int a, int b => a == b
  | long a, long b => a == b
  | float a, float b => a.numEq b
  | double a, double b => a.numEq b
  | str a, str b => a == b
  | list a, list b => sameItems a b
  | map a, map b => sameMembers a b
  | _, _ => false

/-- Equality of lists, element by element. -/
def sameItems : List Value → List Value → Bool
  | [], [] => true
  | a :: as, b :: bs => same a b && sameItems as bs
  | _, _ => false

/-- Equality of maps, member by member. -/
def sameMembers : List (String × Value) → List (String × Value) → Bool
  | [], [] => true
  | (j, a) :: as, (k, b) :: bs => j == k && same a b && sameMembers as bs
  | _, _ => false

end

/-- The elements of a list are written one by one. -/
@[simp] theorem toJsonItems_eq_map (items : List Value) :
    toJsonItems items = items.map toJson := by
  induction items with
  | nil => rfl
  | cons v rest ih => simp [toJsonItems, ih]

/-- The members of an object are written one by one. -/
@[simp] theorem toJsonMembers_eq_map (members : List (String × Value)) :
    toJsonMembers members = members.map fun e => (e.1, toJson e.2) := by
  induction members with
  | nil => rfl
  | cons e rest ih => simp [toJsonMembers, ih]

/-- The elements of a list are read one by one. -/
@[simp] theorem ofJsonItems_eq_map (items : List Json) :
    ofJsonItems items = items.map ofJson := by
  induction items with
  | nil => rfl
  | cons x rest ih => simp [ofJsonItems, ih]

/-- The members of an object are read one by one. -/
@[simp] theorem ofJsonMembers_eq_map (members : List (String × Json)) :
    ofJsonMembers members = members.map fun e => (e.1, ofJson e.2) := by
  induction members with
  | nil => rfl
  | cons e rest ih => simp [ofJsonMembers, ih]

end Value

end Sift
