import Sift.Number.Numeral
import Sift.Path.Error

/-!
# Field paths

A path names a place in a record by keys separated by dots and by indexes in brackets, as in
`owner.tags[0].name`. Dots at the ends and next to each other are ignored.

## Main definitions

* `Sift.Segment`: one step of a path.
* `Sift.Path.parse`: the segments of a path.
* `Sift.Path.render`: the path of segments.
-/

set_option autoImplicit false

namespace Sift

/-- One step of a path. -/
inductive Segment where
  /-- Into the member of that name. -/
  | key (name : String)
  /-- Into the element with that index. -/
  | index (position : Nat)
deriving DecidableEq, Repr

namespace Path

/-- The segment of a key whose characters were collected last one first, if there are any. -/
def pending (key : List Char) (rest : List Segment) : List Segment :=
  if key.isEmpty then rest else .key (String.ofList key.reverse) :: rest

/-- The largest index. -/
def maxIndex : Nat := UInt64.size - 1

mutual

/-- Reads segments; the characters of an unfinished key are in `key`, last one first. -/
def scan (path : String) (key : List Char) : List Char → Except PathError (List Segment)
  | [] => .ok (pending key [])
  | c :: rest =>
    if c = '.' then (scan path [] rest).map (pending key)
    else if c = '[' then (scanIndex path [] rest).map (pending key)
    else scan path (c :: key) rest

/-- Reads the rest of an index and what follows it; its characters so far are in `digits`, last
one first. -/
def scanIndex (path : String) (digits : List Char) : List Char → Except PathError (List Segment)
  | [] => .error (.unclosed path)
  | c :: rest =>
    if c = ']' then
      match Numeral.nat? maxIndex (Text.trimChars digits.reverse) with
      | some n => (scan path [] rest).map (.index n :: ·)
      | none => .error (.invalidIndex (String.ofList digits.reverse) path)
    else scanIndex path (c :: digits) rest

end

/-- The segments of a path, of which there is at least one. -/
def parse (path : String) : Except PathError (List Segment) :=
  match scan path [] path.toList with
  | .ok [] => .error .empty
  | result => result

/-- The text of segments after the first one. -/
def renderTail : List Segment → String
  | [] => ""
  | .key k :: rest => "." ++ k ++ renderTail rest
  | .index n :: rest => "[" ++ toString n ++ "]" ++ renderTail rest

/-- The path of segments: keys are separated from what precedes them by a dot, indexes stand in
brackets. -/
def render : List Segment → String
  | .key k :: rest => k ++ renderTail rest
  | segments => renderTail segments

end Path

end Sift
