import Sift.Table

/-!
# Stores

A store keeps records by their identifiers, in the order of the identifiers.

## Main definitions

* `Sift.Store`: stores.
* `Sift.Store.save`, `Sift.Store.remove`, `Sift.Store.find?`: the operations.

## Main results

* `Sift.Store.find?_save`, `Sift.Store.find?_remove`, `Sift.Store.find?_ofList`: what a later
  look-up sees.
-/

set_option autoImplicit false

namespace Sift

/-- Records by their identifiers. -/
structure Store (T : Type) where
  /-- The records, in the order of their identifiers. -/
  entries : Table T
  /-- No identifier occurs twice. -/
  sorted : Table.Sorted entries

namespace Store

variable {T : Type}

/-- The store without records. -/
def empty : Store T := ⟨[], Table.sorted_nil⟩

/-- The record with an identifier. -/
def find? (s : Store T) (id : String) : Option T := Table.find? id s.entries

/-- Stores a record under an identifier, in place of an earlier one. -/
def save (s : Store T) (id : String) (record : T) : Store T :=
  ⟨Table.insert id record s.entries, Table.sorted_insert s.sorted id record⟩

/-- Removes the record with an identifier. -/
def remove (s : Store T) (id : String) : Store T :=
  ⟨Table.erase id s.entries, Table.sorted_erase s.sorted id⟩

/-- The store of a list of records, where later ones replace earlier ones. -/
def ofList (entries : List (String × T)) : Store T :=
  entries.foldl (fun s e => s.save e.1 e.2) empty

/-- The records in the order of their identifiers. -/
def records (s : Store T) : List T := s.entries.map Prod.snd

/-- How many records there are. -/
def size (s : Store T) : Nat := s.entries.length

/-- Whether there are no records. -/
def isEmpty (s : Store T) : Bool := s.entries.isEmpty

/-- The empty store has no records. -/
theorem find?_empty (id : String) : (empty : Store T).find? id = none := rfl

/-- A record that was saved is found, and all others as before. -/
theorem find?_save (s : Store T) (id id' : String) (record : T) :
    (s.save id record).find? id' = if id' = id then some record else s.find? id' :=
  Table.find?_insert id id' record s.entries

/-- A record that was removed is not found, and all others as before. -/
theorem find?_remove (s : Store T) (id id' : String) :
    (s.remove id).find? id' = if id' = id then none else s.find? id' :=
  Table.find?_erase id id' s.entries

/-- Of several records with one identifier the last one is kept. -/
theorem find?_ofList (entries : List (String × T)) (id : String) :
    (ofList entries).find? id =
      (entries.reverse.find? fun e => id = e.1).map Prod.snd := by
  have h : ∀ s : Store T, (entries.foldl (fun s e => s.save e.1 e.2) s).find? id =
      ((entries.reverse.find? fun e => id = e.1).map Prod.snd).or (s.find? id) := by
    induction entries with
    | nil => intro s; rfl
    | cons e rest ih =>
      intro s
      simp only [List.foldl_cons, ih, find?_save, List.reverse_cons, List.find?_append,
        List.find?_singleton]
      cases List.find? (fun e => decide (id = e.1)) rest.reverse with
      | some _ => simp
      | none => by_cases hid : id = e.1 <;> simp [hid]
  rw [ofList, h, find?_empty, Option.or_none]

end Store

end Sift
