import Sift.Json.Record
import Sift.Proofs.TableLaws

/-!
# Writing records and reading them again

What has been read from a document can be written, and read again from what was written. The law
is stated for one pair of a reader and a writer and carried over to lists, to tables and to the
fields of records, whether a field has to be present, may be absent or has a default. A record is
then covered by the laws of its fields, as long as no two of them have one name.

## Main definitions

* `Sift.Json.Writable`: documents with a text that says all of them.
* `Sift.Json.Rewrites`: a thing that is written and read again.
* `Sift.Json.Faithful`: a reader and a writer of which the second undoes the first.
* `Sift.Json.Carries`: entries of a record from which something can be read again.

## Main results

* `Sift.Json.Faithful.required`, `Sift.Json.Faithful.optional`: the law for one field.
* `Sift.Json.Carries.writable_record`, `Sift.Json.Carries.members`: the law for a record.
-/

set_option autoImplicit false

namespace Sift.Json

/-- Documents with a text that says all of them: numbers are finite, integers fit into 64 bits with
or without a sign, and the members of an object are in key order. -/
inductive Writable : Json → Prop where
  | null : Writable .null
  | bool (b : Bool) : Writable (.bool b)
  | int {n : Int} (lower : Int64.minValue.toInt ≤ n) (upper : n < UInt64.size) : Writable (.int n)
  | double {x : Double} (finite : x.isFinite = true) : Writable (.double x)
  | str (s : String) : Writable (.str s)
  | arr {items : List Json} (each : ∀ x ∈ items, Writable x) : Writable (.arr items)
  | obj {members : List (String × Json)} (sorted : Table.Sorted members)
      (each : ∀ e ∈ members, Writable e.2) : Writable (.obj members)

/-- Integers are written if they have 64 bits, with or without a sign. -/
lemma writable_int_iff {n : Int} :
    (int n).Writable ↔ Int64.minValue.toInt ≤ n ∧ n < UInt64.size :=
  ⟨fun | .int lower upper => ⟨lower, upper⟩, fun h => .int h.1 h.2⟩

/-- Doubles are written if they are finite. -/
lemma writable_double_iff {x : Double} : (double x).Writable ↔ x.isFinite = true :=
  ⟨fun | .double finite => finite, .double⟩

/-- Lists are written if their elements are. -/
lemma writable_arr_iff {items : List Json} : (arr items).Writable ↔ ∀ x ∈ items, x.Writable :=
  ⟨fun | .arr each => each, .arr⟩

/-- Objects are written if their members are sorted and are written. -/
lemma writable_obj_iff {members : List (String × Json)} :
    (obj members).Writable ↔ Table.Sorted members ∧ ∀ e ∈ members, e.2.Writable :=
  ⟨fun | .obj sorted each => ⟨sorted, each⟩, fun h => .obj h.1 h.2⟩

instance {α : Type} (t : Table α) : Decidable t.Sorted :=
  inferInstanceAs (Decidable (t.Pairwise fun a b => a.1 < b.1))

/-! ## The fields of a written record -/

variable {entries : List (String × Option Json)}

/-- The members of a record are sorted. -/
lemma sorted_members (entries : List (String × Option Json)) :
    Table.Sorted (members entries) := by
  induction entries with
  | nil => exact Table.sorted_nil
  | cons e rest ih =>
    obtain ⟨k, x⟩ := e
    cases x with
    | none => exact ih
    | some x => exact Table.sorted_insert ih k x

/-- A record has no member that was not written. -/
lemma mem_entries_of_mem_members {e : String × Json} (h : e ∈ members entries) :
    (e.1, some e.2) ∈ entries := by
  induction entries with
  | nil => cases h
  | cons e' rest ih =>
    obtain ⟨k, x⟩ := e'
    cases x with
    | none => exact List.mem_cons_of_mem _ (ih h)
    | some x =>
      rcases Table.mem_insert h with rfl | h
      · exact List.mem_cons_self
      · exact List.mem_cons_of_mem _ (ih h)

/-- A table that answers the names of entries with their documents. -/
def Holds (t : Table Json) (entries : List (String × Option Json)) : Prop :=
  ∀ e ∈ entries, Table.find? e.1 t = e.2

/-- An entry is found by its name if names are not repeated. -/
lemma lookup_of_mem (h : (entries.map Prod.fst).Nodup) {e : String × Option Json}
    (he : e ∈ entries) : lookup e.1 entries = e.2 := by
  induction entries with
  | nil => cases he
  | cons e' rest ih =>
    rw [List.map_cons, List.nodup_cons] at h
    rw [lookup]
    rcases List.mem_cons.1 he with rfl | he
    · rw [if_pos rfl]
    · have hne : e.1 ≠ e'.1 := fun heq => h.1 (heq ▸ List.mem_map_of_mem he)
      rw [if_neg hne]
      exact ih h.2 he

/-- A record holds what was written into it. -/
lemma holds_members (h : (entries.map Prod.fst).Nodup) : Holds (members entries) entries := by
  intro e he
  rw [find?_members e.1 entries (List.pairwise_map.1 h)]
  exact lookup_of_mem h he

/-! ## Readers and writers -/

section

variable {α : Type} {read : Json → Option α} {write : α → Json}

/-- What is written as a document with a text and read from that document again. -/
structure Rewrites (read : Json → Option α) (write : α → Json) (a : α) : Prop where
  /-- The document has a text. -/
  writable : (write a).Writable
  /-- The document is read again. -/
  reads : read (write a) = some a

/-- What can be read can be written and read again, and only what is read from null is written as
null. -/
structure Faithful (read : Json → Option α) (write : α → Json) : Prop where
  /-- What can be read is written and read again. -/
  rewrites : ∀ {x : Json} {a : α}, x.Writable → read x = some a → Rewrites read write a
  /-- Null stands for null only. -/
  ne_null : ∀ {x : Json} {a : α}, x.Writable → x ≠ .null → read x = some a → write a ≠ .null

/-- Every element that was read stands in the list. -/
lemma exists_of_readAll {xs : List Json} {as : List α} (h : readAll read xs = some as) {a : α}
    (ha : a ∈ as) : ∃ x ∈ xs, read x = some a := by
  induction xs generalizing as with
  | nil =>
    obtain rfl := Option.some.inj h
    cases ha
  | cons x rest ih =>
    rw [readAll] at h
    split at h
    · rename_i y ys hy hys
      obtain rfl := Option.some.inj h
      rcases List.mem_cons.1 ha with rfl | ha
      · exact ⟨x, List.mem_cons_self, hy⟩
      · obtain ⟨z, hz, hza⟩ := ih hys ha
        exact ⟨z, List.mem_cons_of_mem _ hz, hza⟩
    · cases h

/-- A list is read back if its elements are. -/
lemma readAll_map {as : List α} (h : ∀ a ∈ as, Rewrites read write a) :
    readAll read (as.map write) = some as := by
  induction as with
  | nil => rfl
  | cons a rest ih =>
    rw [List.forall_mem_cons] at h
    rw [List.map_cons, readAll, h.1.reads, ih h.2]

/-- A list is written and read again if its elements are. -/
lemma Rewrites.list {as : List α} (h : ∀ a ∈ as, Rewrites read write a) :
    Rewrites (list? read) (fun as => .arr (as.map write)) as where
  writable := .arr (List.forall_mem_map.2 fun a ha => (h a ha).writable)
  reads := readAll_map h

/-- What holds of everything that is read, holds of the elements of a list. -/
lemma forall_of_list? {P : α → Prop} (hread : ∀ x a, x.Writable → read x = some a → P a)
    {x : Json} (hx : x.Writable) {as : List α} (h : list? read x = some as) : ∀ a ∈ as, P a := by
  cases hx with
  | arr hitems =>
    intro a ha
    obtain ⟨y, hy, hya⟩ := exists_of_readAll h ha
    exact hread y a (hitems y hy) hya
  | _ => cases h

/-- The elements of a list are written as they were read. -/
lemma Faithful.rewrites_of_list (hf : Faithful read write) {x : Json} (hx : x.Writable)
    {as : List α} (h : list? read x = some as) : ∀ a ∈ as, Rewrites read write a :=
  forall_of_list? (fun _ _ hx hxa => hf.rewrites hx hxa) hx h

/-- Lists are written as they were read if their elements are. -/
lemma Faithful.list (hf : Faithful read write) :
    Faithful (list? read) (fun as => .arr (as.map write)) where
  rewrites hx h := .list (hf.rewrites_of_list hx h)
  ne_null _ _ _ := nofun

/-- Every entry that was read stands in the object. -/
lemma exists_of_readValues {t : Table Json} {u : Table α} (h : readValues read t = some u)
    {e : String × α} (he : e ∈ u) : ∃ x, (e.1, x) ∈ t ∧ read x = some e.2 := by
  induction t generalizing u with
  | nil =>
    obtain rfl := Option.some.inj h
    cases he
  | cons e' rest ih =>
    obtain ⟨k, x⟩ := e'
    rw [readValues] at h
    split at h
    · rename_i y ys hy hys
      obtain rfl := Option.some.inj h
      rcases List.mem_cons.1 he with rfl | he
      · exact ⟨x, List.mem_cons_self, hy⟩
      · obtain ⟨z, hz, hze⟩ := ih hys he
        exact ⟨z, List.mem_cons_of_mem _ hz, hze⟩
    · cases h

/-- Reading the values of a table keeps its keys. -/
lemma keys_of_readValues {t : Table Json} {u : Table α} (h : readValues read t = some u) :
    u.map Prod.fst = t.map Prod.fst := by
  induction t generalizing u with
  | nil =>
    obtain rfl := Option.some.inj h
    rfl
  | cons e rest ih =>
    obtain ⟨k, x⟩ := e
    rw [readValues] at h
    split at h
    · rename_i y ys hy hys
      obtain rfl := Option.some.inj h
      rw [List.map_cons, List.map_cons, ih hys]
    · cases h

/-- A table is sorted if its keys are. -/
lemma sorted_iff_keys {β : Type} {t : Table β} :
    Table.Sorted t ↔ (t.map Prod.fst).Pairwise (· < ·) :=
  List.pairwise_map.symm

/-- A table is read back if its values are. -/
lemma readValues_map {u : Table α} (h : ∀ e ∈ u, Rewrites read write e.2) :
    readValues read (u.map fun e => (e.1, write e.2)) = some u := by
  induction u with
  | nil => rfl
  | cons e rest ih =>
    rw [List.forall_mem_cons] at h
    rw [List.map_cons, readValues, h.1.reads, ih h.2]

/-- A table in key order is written and read again if its values are. -/
lemma Rewrites.table {u : Table α} (hu : Table.Sorted u)
    (h : ∀ e ∈ u, Rewrites read write e.2) :
    Rewrites (table? read) (fun u => .obj (u.map fun e => (e.1, write e.2))) u where
  writable := .obj (hu.mapValues write) (List.forall_mem_map.2 fun e he => (h e he).writable)
  reads := readValues_map h

/-- The values of a table are written as they were read. -/
lemma Faithful.rewrites_of_table (hf : Faithful read write) {x : Json} (hx : x.Writable)
    {u : Table α} (h : table? read x = some u) :
    Table.Sorted u ∧ ∀ e ∈ u, Rewrites read write e.2 := by
  cases hx with
  | obj hsorted hmembers =>
    refine ⟨?_, fun e he => ?_⟩
    · rw [sorted_iff_keys, keys_of_readValues h, ← sorted_iff_keys]
      exact hsorted
    · obtain ⟨y, hy, hye⟩ := exists_of_readValues h he
      exact hf.rewrites (hmembers _ hy) hye
  | _ => cases h

/-- Tables are written as they were read if their values are. -/
lemma Faithful.table (hf : Faithful read write) :
    Faithful (table? read) (fun u => .obj (u.map fun e => (e.1, write e.2))) where
  rewrites hx h :=
    have hu := hf.rewrites_of_table hx h
    .table hu.1 hu.2
  ne_null _ _ _ := nofun

/-! ## Fields -/

/-- Entries with texts that carry a property: every table that holds the entries has it. -/
structure Carries (entries : List (String × Option Json)) (P : Table Json → Prop) : Prop where
  /-- The entries have texts. -/
  writable : ∀ e ∈ entries, ∀ x ∈ e.2, x.Writable
  /-- The entries decide the property. -/
  holds : ∀ {u : Table Json}, Holds u entries → P u

namespace Carries

variable {e : String × Option Json} {P Q : Table Json → Prop}

/-- An entry by itself. -/
lemma entry {key : String} {x : Option Json} (hwritable : ∀ y ∈ x, y.Writable)
    (h : ∀ {u : Table Json}, Table.find? key u = x → P u) : Carries [(key, x)] P where
  writable := List.forall_mem_cons.2 ⟨hwritable, nofun⟩
  holds hu := h (hu _ List.mem_cons_self)

/-- What holds of every table is carried by no entries. -/
lemma nil (h : ∀ {u : Table Json}, P u) : Carries [] P := ⟨nofun, fun _ => h⟩

/-- Entries before others. -/
lemma append {first rest : List (String × Option Json)} (h : Carries first P)
    (hrest : Carries rest Q) : Carries (first ++ rest) fun u => P u ∧ Q u where
  writable := List.forall_mem_append.2 ⟨h.writable, hrest.writable⟩
  holds hu :=
    have hu' := List.forall_mem_append.1 hu
    ⟨h.holds hu'.1, hrest.holds hu'.2⟩

/-- An entry before others. -/
lemma cons (h : Carries [e] P) (hrest : Carries entries Q) :
    Carries (e :: entries) fun u => P u ∧ Q u := h.append hrest

/-- Members that say something also say what follows from it. -/
lemma imp (h : Carries entries P) (hpq : ∀ u, P u → Q u) : Carries entries Q :=
  ⟨h.writable, fun hu => hpq _ (h.holds hu)⟩

/-- A record of entries with texts has a text. -/
theorem writable_record (h : Carries entries P) : (record entries).Writable :=
  .obj (sorted_members entries) fun e he =>
    h.writable (e.1, some e.2) (mem_entries_of_mem_members he) e.2 rfl

/-- The members of a record have what its entries carry. -/
theorem members (h : Carries entries P) (hnodup : (entries.map Prod.fst).Nodup) :
    P (Json.members entries) := h.holds (holds_members hnodup)

end Carries

/-- The values of a table have texts. -/
def WritableTable (t : Table Json) : Prop := ∀ e ∈ t, e.2.Writable

variable {t : Table Json} {key : String}

/-- A member of an object that is written is written. -/
lemma WritableTable.find? (ht : WritableTable t) {x : Json} (h : Table.find? key t = some x) :
    x.Writable := ht (key, x) (Table.mem_of_find? h)

/-- A field that is always written, with or without a default. -/
lemma Rewrites.carries {a : α} (h : Rewrites read write a) (key : String) :
    Carries [(key, some (write a))] fun u => Table.find? key u = some (write a) ∧
      read (write a) = some a :=
  .entry (fun _ hx => Option.some.inj hx ▸ h.writable) fun hu => ⟨hu, h.reads⟩

/-- What has been written into a field that has to be present is read again. -/
theorem Rewrites.required {a : α} (h : Rewrites read write a) (key : String) :
    Carries [(key, some (write a))] fun u => Json.required key read u = some a := by
  refine (h.carries key).imp fun u hu => ?_
  rw [Json.required, hu.1, Option.bind_some, hu.2]

/-- What has been written into a field that may be absent is read again if it is not null. -/
theorem Rewrites.optional {o : Option α} (h : ∀ a ∈ o, write a ≠ .null ∧ Rewrites read write a)
    (key : String) : Carries [(key, o.map write)] fun u => Json.optional key read u = some o := by
  cases o with
  | none => exact .entry nofun fun hu => by rw [Json.optional, hu]; rfl
  | some a =>
    obtain ⟨hne, ha⟩ := h a rfl
    refine (ha.carries key).imp fun u hu => ?_
    rw [Json.optional, hu.1]
    split
    · rename_i heq
      cases heq
    · rename_i heq
      exact absurd (Option.some.inj heq) hne
    · rename_i heq
      rw [← Option.some.inj heq, hu.2]
      rfl

/-- What holds of everything that is read, holds of a field that has to be present. -/
lemma of_required {P : α → Prop} (hread : ∀ x a, x.Writable → read x = some a → P a)
    (ht : WritableTable t) {a : α} (h : required key read t = some a) : P a := by
  obtain ⟨x, hx, hxa⟩ := Option.bind_eq_some_iff.1 h
  exact hread x a (ht.find? hx) hxa

/-- What holds of everything that is read from anything but null, holds of a field that may be
absent. -/
lemma forall_of_optional {P : α → Prop}
    (hread : ∀ x a, x.Writable → x ≠ .null → read x = some a → P a)
    (ht : WritableTable t) {o : Option α} (h : optional key read t = some o) : ∀ a ∈ o, P a := by
  rw [optional] at h
  split at h
  · exact Option.some.inj h ▸ nofun
  · exact Option.some.inj h ▸ nofun
  · rename_i x hnull hx
    obtain ⟨a, ha, rfl⟩ := Option.map_eq_some_iff.1 h
    exact fun b hb => Option.some.inj hb ▸ hread x a (ht.find? hx) hnull ha

/-- A field that has to be present. -/
theorem Faithful.required (hf : Faithful read write) (ht : WritableTable t) {a : α}
    (h : required key read t = some a) :
    Carries [(key, some (write a))] fun u => Json.required key read u = some a :=
  Rewrites.required (of_required (fun _ _ hx hxa => hf.rewrites hx hxa) ht h) key

/-- A field that may be absent or null. -/
theorem Faithful.optional (hf : Faithful read write) (ht : WritableTable t) {o : Option α}
    (h : optional key read t = some o) :
    Carries [(key, o.map write)] fun u => Json.optional key read u = some o :=
  Rewrites.optional (forall_of_optional
    (fun _ _ hx hne hxa => ⟨hf.ne_null hx hne hxa, hf.rewrites hx hxa⟩) ht h) key

/-- What a field with a default is read as, is the default or read from a document. -/
lemma forall_of_defaulted {γ : Type} {read : Json → Option γ} {default c : γ} {P : γ → Prop}
    (hdefault : P default) (hread : ∀ x, x.Writable → read x = some c → P c)
    (ht : WritableTable t) (h : defaulted key default read t = some c) : P c := by
  rw [defaulted] at h
  split at h
  · exact Option.some.inj h ▸ hdefault
  · rename_i x hx
    exact hread x (ht.find? hx) h

/-- A field with a default that is always written. -/
lemma Faithful.defaulted (hf : Faithful read write) {default : α}
    (hdefault : Rewrites read write default) (ht : WritableTable t) {a : α}
    (h : defaulted key default read t = some a) :
    Carries [(key, some (write a))] fun u => Json.defaulted key default read u = some a := by
  have ha : Rewrites read write a :=
    forall_of_defaulted hdefault (fun _ hx h => hf.rewrites hx h) ht h
  refine (ha.carries key).imp fun u hu => ?_
  rw [Json.defaulted, hu.1]
  exact hu.2

/-- A list that is left out when it is empty. -/
lemma Rewrites.nonempty {as : List α} (h : ∀ a ∈ as, Rewrites read write a) (key : String) :
    Carries [(key, ofNonempty write as)] fun u => defaulted key [] (list? read) u = some as := by
  cases as with
  | nil => exact .entry nofun fun hu => by rw [defaulted, hu]; rfl
  | cons a rest =>
    refine ((Rewrites.list h).carries key).imp fun u hu => ?_
    rw [defaulted, hu.1]
    exact hu.2

/-- A list that is left out if it is empty is written as it was read. -/
lemma Faithful.nonempty (hf : Faithful read write) (ht : WritableTable t) {as : List α}
    (h : Json.defaulted key [] (list? read) t = some as) :
    Carries [(key, ofNonempty write as)] fun u =>
      Json.defaulted key [] (list? read) u = some as :=
  Rewrites.nonempty (forall_of_defaulted (P := fun as => ∀ a ∈ as, Rewrites read write a)
    (fun _ ha => absurd ha List.not_mem_nil) (fun _ hx h => hf.rewrites_of_list hx h) ht h) key

/-- A table that is left out when it is empty. -/
lemma Rewrites.nonemptyTable {u : Table α} (hu : Table.Sorted u)
    (h : ∀ e ∈ u, Rewrites read write e.2) (key : String) :
    Carries [(key, ofNonemptyTable write u)] fun t =>
      Json.defaulted key [] (table? read) t = some u := by
  cases u with
  | nil => exact .entry nofun fun hu => by rw [Json.defaulted, hu]; rfl
  | cons e rest =>
    refine ((Rewrites.table hu h).carries key).imp fun t ht => ?_
    rw [Json.defaulted, ht.1]
    exact ht.2

/-- A table that is left out if it is empty is written as it was read. -/
lemma Faithful.nonemptyTable (hf : Faithful read write) (ht : WritableTable t) {u : Table α}
    (h : Json.defaulted key [] (table? read) t = some u) :
    Carries [(key, ofNonemptyTable write u)] fun t' =>
      Json.defaulted key [] (table? read) t' = some u := by
  have hu : Table.Sorted u ∧ ∀ e ∈ u, Rewrites read write e.2 :=
    forall_of_defaulted (P := fun u => Table.Sorted u ∧ ∀ e ∈ u, Rewrites read write e.2)
      ⟨Table.sorted_nil, fun _ he => absurd he List.not_mem_nil⟩
      (fun _ hx h => hf.rewrites_of_table hx h) ht h
  exact Rewrites.nonemptyTable hu.1 hu.2 key

/-! ## Records -/

/-- The fields of a document with a text have texts. -/
lemma Writable.fields? {x : Json} (hx : x.Writable) {names : List String} {least : Nat}
    (h : x.fields? names least = some t) : WritableTable t := by
  cases hx with
  | obj _ hmembers =>
    obtain rfl := Option.some.inj h
    exact hmembers
  | arr hitems =>
    rw [Json.fields?] at h
    split at h
    · obtain rfl := Option.some.inj h
      exact fun e he => hitems _ (List.of_mem_zip he).2
    · cases h
  | _ => cases h

/-- A record by itself. -/
lemma Faithful.ofFields {readFields : Table Json → Option α} {names : List String} {least : Nat}
    {entriesOf : α → List (String × Option Json)}
    (hread : ∀ x, read x = (x.fields? names least).bind readFields)
    (hwrite : ∀ a, write a = record (entriesOf a))
    (hfields : ∀ {t : Table Json} {a : α}, WritableTable t → readFields t = some a →
      Carries (entriesOf a) fun u => readFields u = some a)
    (hnodup : ∀ a, ((entriesOf a).map Prod.fst).Nodup) : Faithful read write where
  rewrites {x a} hx ha := by
    rw [hread] at ha
    obtain ⟨t, ht, hta⟩ := Option.bind_eq_some_iff.1 ha
    have ha := hfields (hx.fields? ht) hta
    refine ⟨hwrite a ▸ ha.writable_record, ?_⟩
    rw [hread, hwrite]
    exact ha.members (hnodup a)
  ne_null {x a} _ _ _ := by rw [hwrite]; nofun

end

/-! ## Scalars -/

/-- A text is written as it was read. -/
lemma faithful_text : Faithful text? .str where
  rewrites _ _ := ⟨.str _, rfl⟩
  ne_null _ _ _ := nofun

/-- A count of 64 bits is written as it was read. -/
lemma rewrites_nat {n : Nat} (h : n < UInt64.size) : Rewrites nat? (fun n => .int n) n := by
  have hlower : Int64.minValue.toInt ≤ 0 := by decide
  refine ⟨.int (by omega) (by omega), ?_⟩
  rw [nat?, if_pos ⟨by omega, by omega⟩]
  rfl

/-- Counts of a document are written as they were read. -/
lemma faithful_nat : Faithful nat? fun n => .int n where
  rewrites {x n} hx h := by
    cases hx with
    | int hlower hupper =>
      rw [nat?] at h
      split at h
      · rename_i hn
        obtain rfl := Option.some.inj h
        exact rewrites_nat (by omega)
      · cases h
    | _ => cases h
  ne_null _ _ _ := nofun

/-- Every text is written as it was read. -/
lemma rewrites_text (s : String) : Rewrites text? .str s := ⟨.str s, rfl⟩

/-- A text that is always written. -/
lemma carries_text (key s : String) :
    Carries [(key, some (.str s))] fun u => Table.find? key u = some (.str s) :=
  .entry (fun _ hx => Option.some.inj hx ▸ .str s) fun hu => hu

/-- A text that may be absent. -/
lemma carries_optional_text (key : String) (o : Option String) :
    Carries [(key, o.map .str)] fun u => optional key text? u = some o := by
  refine Rewrites.optional (fun s _ => ⟨?_, rewrites_text s⟩) key
  nofun

/-- A number that may be absent. -/
lemma carries_optional_nat {t : Table Json} (ht : WritableTable t) {key : String}
    {o : Option Nat} (h : optional key nat? t = some o) :
    Carries [(key, o.map fun n => .int n)] fun u => optional key nat? u = some o := by
  have hfield := faithful_nat.optional ht h
  cases o <;> exact hfield

/-- A document is written as it was read. -/
lemma faithful_any : Faithful some id where
  rewrites hx h := by
    obtain rfl := Option.some.inj h
    exact ⟨hx, rfl⟩
  ne_null _ hx h := Option.some.inj h ▸ hx

end Sift.Json
