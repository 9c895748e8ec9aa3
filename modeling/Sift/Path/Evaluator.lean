import Sift.Path.Basic
import Sift.Value.Basic

/-!
# Following a path through a record

An evaluator finds the value at a path of a record. The evaluator of JSON documents applies one
segment after the other; a key that meets a list is applied to each of its elements.

## Main definitions

* `Sift.Evaluator`: evaluators of records of any kind.
* `Sift.Evaluator.json`: the evaluator of JSON documents.
* `Sift.Evaluator.encoded`: the evaluator of records with a JSON form.
* `Sift.Evaluator.extract`: all values at a path.
* `Sift.Evaluator.extractValue`: the single value at a path.
-/

set_option autoImplicit false

namespace Sift

/-- Finds the value at a path of a record. -/
abbrev Evaluator (R : Type) := R → String → Except Error Value

namespace Json

/-- What an element contributes to the list that a key makes of a list: nothing if it is null,
its elements if it is a list, and itself otherwise. -/
def spread : Json → List Json
  | null => []
  | arr items => items
  | x => [x]

mutual

/-- Applies a key: the member of an object, and the members of the elements of a list. -/
def stepKey (key path : String) : Json → Except PathError Json
  | null => .ok null
  | obj members => .ok ((Table.find? key members).getD null)
  | arr items => (stepKeyItems key path items).map arr
  | x => .error (.keyOfScalar key x path)

/-- Applies a key to every element of a list and joins what they contribute. -/
def stepKeyItems (key path : String) : List Json → Except PathError (List Json)
  | [] => .ok []
  | x :: rest =>
    match stepKey key path x with
    | .error e => .error e
    | .ok y =>
      match stepKeyItems key path rest with
      | .error e => .error e
      | .ok ys => .ok (y.spread ++ ys)

end

/-- Applies an index: the element of a list at that place. -/
def stepIndex (position : Nat) (path : String) : Json → Except PathError Json
  | null => .ok null
  | arr items => .ok (items[position]?.getD null)
  | x => .error (.indexOfNonList position x path)

/-- Applies one segment. What null contains is null. -/
def step (path : String) (x : Json) : Segment → Except PathError Json
  | .key k => stepKey k path x
  | .index n => stepIndex n path x

/-- Applies segments one after the other. -/
def follow (path : String) (x : Json) : List Segment → Except PathError Json
  | [] => .ok x
  | s :: rest =>
    match step path x s with
    | .error e => .error e
    | .ok y => follow path y rest

/-- The part of a document at a path. -/
def atPath (x : Json) (path : String) : Except PathError Json :=
  match Path.parse path with
  | .error e => .error e
  | .ok segments => follow path x segments

end Json

namespace Evaluator

variable {R : Type}

/-- The evaluator of records that have a JSON form. -/
def encoded (encode : R → Json) : Evaluator R := fun r path =>
  match (encode r).atPath path with
  | .ok x => .ok (Value.ofJson x)
  | .error e => .error e.toError

/-- The evaluator of JSON documents. -/
def json : Evaluator Json := encoded id

/-- All values at a path: the elements of a list, nothing for null and for a path that cannot be
followed, and any other value by itself. -/
def extract (E : Evaluator R) (r : R) (path : String) : List Value :=
  match E r path with
  | .ok .null => []
  | .ok (.list items) => items
  | .ok v => [v]
  | .error _ => []

/-- The value at a path, null where the path cannot be followed. -/
def extractValue (E : Evaluator R) (r : R) (path : String) : Value :=
  match E r path with
  | .ok v => v
  | .error _ => .null

end Evaluator

end Sift
