import Sift.Json.Basic

/-!
# Records in JSON documents

Structured data is written as an object with a member for every field that is present. It is read
from such an object, in which unknown members are ignored, or from a list that gives the fields in
their order. One of several kinds of record is marked by the member `type`, or by the first
element of the list.

## Main definitions

* `Sift.Json.record`: an object without the absent members.
* `Sift.Json.fields?`: the fields of a record.
* `Sift.Json.tag?`: the kind of a tagged record.
* `Sift.Json.required`, `Sift.Json.optional`, `Sift.Json.defaulted`: reading one field.

## Main results

* `Sift.Json.find?_members`: the fields of a record that was written.
-/

set_option autoImplicit false

namespace Sift.Json

variable {α : Type}

/-- The members that are present, in key order. -/
def members (entries : List (String × Option Json)) : Table Json :=
  entries.foldr (fun e t =>
    match e.2 with
    | none => t
    | some x => Table.insert e.1 x t) []

/-- An object of the members that are present. -/
def record (entries : List (String × Option Json)) : Json := obj (members entries)

/-- A list as a member that is left out when it is empty. -/
def ofNonempty (encode : α → Json) (items : List α) : Option Json :=
  if items.isEmpty then none else some (arr (items.map encode))

/-- A table as a member that is left out when it is empty. -/
def ofNonemptyTable (encode : α → Json) (t : Table α) : Option Json :=
  if t.isEmpty then none else some (obj (t.map fun e => (e.1, encode e.2)))

/-! ## Reading -/

/-- The fields of a record with the given names. A list gives them in the order of the names; it
may stop early, but not before the first `least` ones. -/
def fields? (names : List String) (least : Nat) : Json → Option (Table Json)
  | obj members => some members
  | arr items =>
    if least ≤ items.length ∧ items.length ≤ names.length then some (names.zip items) else none
  | _ => none

/-- The name of a kind. Inside other records the number of a kind stands for its name too. -/
def tag? (names : List String) (nested : Bool) : Json → Option String
  | str s => if names.contains s then some s else none
  | int n => if nested ∧ 0 ≤ n then names[n.toNat]? else none
  | _ => none

/-- A field that has to be present. -/
def required (key : String) (read : Json → Option α) (t : Table Json) : Option α :=
  (Table.find? key t).bind read

/-- A field that may be absent or null. -/
def optional (key : String) (read : Json → Option α) (t : Table Json) : Option (Option α) :=
  match Table.find? key t with
  | none => some none
  | some null => some none
  | some x => (read x).map some

/-- A field that may be absent, but not null. -/
def defaulted (key : String) (default : α) (read : Json → Option α) (t : Table Json) : Option α :=
  match Table.find? key t with
  | none => some default
  | some x => read x

/-- Applies a reader to every element and fails if it fails for one. -/
def readAll (read : Json → Option α) : List Json → Option (List α)
  | [] => some []
  | x :: rest =>
    match read x, readAll read rest with
    | some y, some ys => some (y :: ys)
    | _, _ => none

/-- Applies a reader to every value of a table and fails if it fails for one. -/
def readValues (read : Json → Option α) : Table Json → Option (Table α)
  | [] => some []
  | (k, x) :: rest =>
    match read x, readValues read rest with
    | some y, some ys => some ((k, y) :: ys)
    | _, _ => none

/-- A list of what the reader reads. -/
def list? (read : Json → Option α) : Json → Option (List α)
  | arr items => readAll read items
  | _ => none

/-- A table of what the reader reads. -/
def table? (read : Json → Option α) : Json → Option (Table α)
  | obj members => readValues read members
  | _ => none

/-- A natural number of 64 bits. -/
def nat? : Json → Option Nat
  | int n => if 0 ≤ n ∧ n < UInt64.size then some n.toNat else none
  | _ => none

/-- A number as a double. -/
def double? : Json → Option Double
  | int n => some (Floating.ofInt n)
  | double x => some x
  | _ => none

/-- A name from a fixed list, by itself or as the only member of an object, which is null. Inside
other records that member may also be an empty object. -/
def name? (names : List String) (nested : Bool) : Json → Option String
  | str s => if names.contains s then some s else none
  | obj [(s, null)] => if names.contains s then some s else none
  | obj [(s, obj [])] => if nested ∧ names.contains s then some s else none
  | _ => none

/-! ## What a written record holds -/

/-- The first entry of a name. -/
def lookup (key : String) : List (String × Option Json) → Option Json
  | [] => none
  | (k, x) :: rest => if key = k then x else lookup key rest

/-- A name that no entry has is not found. -/
theorem lookup_eq_none {key : String} {entries : List (String × Option Json)}
    (h : ∀ e ∈ entries, key ≠ e.1) : lookup key entries = none := by
  induction entries with
  | nil => rfl
  | cons e rest ih =>
    simp only [lookup]
    rw [if_neg (h e List.mem_cons_self)]
    exact ih fun e he => h e (List.mem_cons_of_mem _ he)

/-- The fields of a record are those that were written into it. -/
theorem find?_members (key : String) (entries : List (String × Option Json))
    (h : entries.Pairwise fun a b => a.1 ≠ b.1) :
    Table.find? key (members entries) = lookup key entries := by
  induction entries with
  | nil => rfl
  | cons e rest ih =>
    obtain ⟨k, x⟩ := e
    have ih := ih (List.Pairwise.of_cons h)
    have hk : ∀ e ∈ rest, k ≠ e.1 := (List.pairwise_cons.1 h).1
    cases x with
    | none =>
      simp only [members, lookup, List.foldr_cons] at ih ⊢
      rw [ih]
      split
      · rename_i heq
        exact lookup_eq_none (heq ▸ hk)
      · rfl
    | some x =>
      simp only [members, lookup, List.foldr_cons] at ih ⊢
      rw [Table.find?_insert, ih]

end Sift.Json
