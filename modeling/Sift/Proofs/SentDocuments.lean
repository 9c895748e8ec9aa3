import Sift.Proofs.RoundTrip

/-!
# What the text of a document says

A text says neither infinities nor not-a-numbers: where a document has such a number, its text has
null. What is sent as a text may therefore arrive as another document, and what is read from that
document need not be what was written. Finite numbers arrive as they are, since their texts have all
digits that tell them apart. A value arrives as it was sent exactly if it is one that a document can
say: its numbers have 64 bits and are finite, and there are none of another width.

## Main definitions

* `Sift.Json.sent`: the document that the text of a document says.
* `Sift.Json.Survives`: a thing that is read again from the text of its document.
* `Sift.Json.Arrives`: entries of a record that are read again under a condition.
* `Sift.Value.Expressible`: values that a document can say.

## Main results

* `Sift.Json.render_sent`: a document has the text of what arrives.
* `Sift.Json.survives_list_iff`, `Sift.Json.survives_table_iff`: lists and tables.
* `Sift.Json.survives_record_iff`: records, by their entries.
* `Sift.Value.survives_iff`: the values that survive.
-/

set_option autoImplicit false

namespace Sift

namespace Json

/-! ## Documents that arrive -/

mutual

/-- The document that the text of a document says, where numbers without a text are null. -/
def sent : Json → Json
  | null => null
  | bool b => bool b
  | int n => int n
  | double x => if x.isFinite then double x else null
  | str s => str s
  | arr items => arr (sentItems items)
  | obj members => obj (sentMembers members)

/-- The elements of an array that arrive. -/
def sentItems : List Json → List Json
  | [] => []
  | x :: rest => sent x :: sentItems rest

/-- The members of an object that arrive. -/
def sentMembers : List (String × Json) → List (String × Json)
  | [] => []
  | (k, x) :: rest => (k, sent x) :: sentMembers rest

end

/-- The elements of a list arrive one by one. -/
@[simp] lemma sentItems_eq_map (items : List Json) : sentItems items = items.map sent := by
  induction items with
  | nil => rfl
  | cons x rest ih => rw [sentItems, ih, List.map_cons]

/-- The members of an object arrive one by one. -/
@[simp] lemma sentMembers_eq_mapValues (members : Table Json) :
    sentMembers members = Table.mapValues sent members := by
  induction members with
  | nil => rfl
  | cons e rest ih =>
    rw [sentMembers, ih]
    rfl

/-- An induction over documents that covers all elements and members at once. -/
@[elab_as_elim]
lemma induction {motive : Json → Prop} (null : motive null) (bool : ∀ b, motive (bool b))
    (int : ∀ n, motive (int n)) (double : ∀ x, motive (double x)) (str : ∀ s, motive (str s))
    (arr : ∀ items, (∀ x ∈ items, motive x) → motive (arr items))
    (obj : ∀ members, (∀ e ∈ members, motive e.2) → motive (obj members)) (x : Json) :
    motive x :=
  @Json.rec motive (fun items => ∀ x ∈ items, motive x) (fun members => ∀ e ∈ members, motive e.2)
    (fun e => motive e.2) null bool int double str arr obj
    (fun _ h => absurd h List.not_mem_nil)
    (fun _ _ hx hrest => List.forall_mem_cons.2 ⟨hx, hrest⟩)
    (fun _ h => absurd h List.not_mem_nil)
    (fun _ _ he hrest => List.forall_mem_cons.2 ⟨he, hrest⟩) (fun _ _ h => h) x

/-- Elements with the same text make a list with the same text. -/
lemma renderItems_map {f : Json → Json} {items : List Json}
    (h : ∀ x ∈ items, (f x).render = x.render) :
    renderItems (items.map f) = renderItems items := by
  induction items with
  | nil => rfl
  | cons x rest ih =>
    rw [List.forall_mem_cons] at h
    cases rest with
    | nil => exact h.1
    | cons y rest =>
      show (f x).render ++ "," ++ renderItems ((y :: rest).map f) =
        x.render ++ "," ++ renderItems (y :: rest)
      rw [h.1, ih h.2]

/-- Members with the same text make an object with the same text. -/
lemma renderMembers_mapValues {f : Json → Json} {members : Table Json}
    (h : ∀ e ∈ members, (f e.2).render = e.2.render) :
    renderMembers (Table.mapValues f members) = renderMembers members := by
  induction members with
  | nil => rfl
  | cons e rest ih =>
    obtain ⟨k, x⟩ := e
    rw [List.forall_mem_cons] at h
    cases rest with
    | nil => exact congrArg (renderString k ++ ":" ++ ·) h.1
    | cons e' rest =>
      show renderString k ++ ":" ++ (f x).render ++ "," ++
          renderMembers (Table.mapValues f (e' :: rest)) =
        renderString k ++ ":" ++ x.render ++ "," ++ renderMembers (e' :: rest)
      rw [h.1, ih h.2]

/-- **A document has the text of what arrives.** -/
theorem render_sent (x : Json) : x.sent.render = x.render := by
  induction x using Json.induction with
  | null | bool _ | int _ | str _ => rfl
  | double x =>
    rw [sent, render]
    split
    · rename_i h
      rw [render, if_pos h]
    · rfl
  | arr items ih => rw [sent, sentItems_eq_map, render, render, renderItems_map ih]
  | obj members ih =>
    rw [sent, sentMembers_eq_mapValues, render, render, renderMembers_mapValues ih]

/-- A document with a text that says all of it arrives as it is. -/
lemma Writable.sent_eq {x : Json} (hx : x.Writable) : x.sent = x := by
  induction hx with
  | null | bool _ | int _ _ | str _ => rfl
  | double finite => exact if_pos finite
  | @arr items _ ih =>
    rw [sent, sentItems_eq_map]
    exact congrArg Json.arr ((List.map_congr_left ih).trans (List.map_id _))
  | @obj members _ _ ih =>
    have hmembers : Table.mapValues sent members = members :=
      (List.map_congr_left fun e he => congrArg (Prod.mk e.1) (ih e he)).trans (List.map_id _)
    rw [sent, sentMembers_eq_mapValues, hmembers]

/-! ## What survives -/

section

variable {α : Type} {read : Json → Option α} {write : α → Json}

/-- What is read again from the text of its document. -/
abbrev Survives (read : Json → Option α) (write : α → Json) (a : α) : Prop :=
  Rewrites read (fun a => (write a).sent) a

/-- What has a document with a text that says all of it survives if that document is read again. -/
lemma survives_iff_of_writable {a : α} (h : (write a).Writable) :
    Survives read write a ↔ read (write a) = some a := by
  constructor
  · intro ha
    have hreads : read (write a).sent = some a := ha.reads
    rwa [h.sent_eq] at hreads
  · intro ha
    refine ⟨?_, ?_⟩
    · show (write a).sent.Writable
      rwa [h.sent_eq]
    · show read (write a).sent = some a
      rwa [h.sent_eq]

/-- What is written as it was read also survives being sent. -/
lemma Rewrites.survives {a : α} (h : Rewrites read write a) : Survives read write a :=
  (survives_iff_of_writable h.writable).2 h.reads

/-- Every text survives. -/
lemma survives_text_iff (s : String) : Survives text? .str s ↔ True :=
  iff_true_intro (rewrites_text s).survives

/-- A count survives if it has 64 bits. -/
lemma survives_nat_iff {n : Nat} : Survives nat? (fun n => .int n) n ↔ n < UInt64.size := by
  constructor
  · intro h
    have hreads : nat? (.int n) = some n := h.reads
    rw [nat?] at hreads
    split at hreads
    · rename_i hn
      omega
    · cases hreads
  · exact fun h => (rewrites_nat h).survives

/-- The number of a field survives if it is finite. In place of another one null is read, which is
no number. -/
lemma survives_double_iff {x : Double} : Survives double? .double x ↔ x.isFinite = true := by
  constructor
  · intro h
    have hreads : double? (sent (.double x)) = some x := h.reads
    rw [sent] at hreads
    split at hreads
    · rename_i hx
      exact hx
    · cases hreads
  · intro h
    exact (survives_iff_of_writable (.double h)).2 rfl

/-- A number that may be absent survives if it is finite. -/
lemma present_double_iff {x : Double} :
    sent (.double x) ≠ .null ∧ Survives double? .double x ↔ x.isFinite = true := by
  rw [survives_double_iff, sent]
  exact ⟨And.right, fun h => ⟨by rw [if_pos h]; nofun, h⟩⟩

/-- A list is read back if its elements are. -/
lemma readAll_map_eq_iff {f : α → Json} {as : List α} :
    readAll read (as.map f) = some as ↔ ∀ a ∈ as, read (f a) = some a := by
  induction as with
  | nil => simp [readAll]
  | cons a rest ih =>
    rw [List.map_cons, readAll, List.forall_mem_cons, ← ih]
    constructor
    · intro h
      split at h
      · rename_i y ys hy hys
        obtain ⟨rfl, rfl⟩ := List.cons.inj (Option.some.inj h)
        exact ⟨hy, hys⟩
      · cases h
    · rintro ⟨h, hrest⟩
      rw [h, hrest]

/-- A table is read back if its values are. -/
lemma readValues_mapValues_eq_iff {f : α → Json} {u : Table α} :
    readValues read (Table.mapValues f u) = some u ↔ ∀ e ∈ u, read (f e.2) = some e.2 := by
  induction u with
  | nil => simp [Table.mapValues, readValues]
  | cons e rest ih =>
    obtain ⟨k, a⟩ := e
    rw [List.forall_mem_cons, ← ih]
    show readValues read ((k, f a) :: Table.mapValues f rest) = some ((k, a) :: rest) ↔ _
    rw [readValues]
    constructor
    · intro h
      split at h
      · rename_i y ys hy hys
        obtain ⟨he, rfl⟩ := List.cons.inj (Option.some.inj h)
        exact ⟨hy.trans (congrArg some (congrArg Prod.snd he)), hys⟩
      · cases h
    · rintro ⟨h, hrest⟩
      replace h : read (f a) = some a := h
      rw [h, hrest]

/-- A list survives if its elements do. -/
theorem survives_list_iff {as : List α} :
    Survives (list? read) (fun as => .arr (as.map write)) as ↔ ∀ a ∈ as, Survives read write a := by
  have hsent : sent (.arr (as.map write)) = .arr (as.map fun a => (write a).sent) := by
    rw [sent, sentItems_eq_map, List.map_map]
    rfl
  constructor
  · intro h
    have hwritable : (sent (.arr (as.map write))).Writable := h.writable
    have hreads : list? read (sent (.arr (as.map write))) = some as := h.reads
    rw [hsent] at hwritable hreads
    rw [writable_arr_iff, List.forall_mem_map] at hwritable
    exact fun a ha => ⟨hwritable a ha, readAll_map_eq_iff.1 hreads a ha⟩
  · intro h
    refine ⟨?_, ?_⟩
    · show (sent (.arr (as.map write))).Writable
      rw [hsent, writable_arr_iff, List.forall_mem_map]
      exact fun a ha => (h a ha).writable
    · show list? read (sent (.arr (as.map write))) = some as
      rw [hsent]
      exact readAll_map_eq_iff.2 fun a ha => (h a ha).reads

/-- A table survives if it is in key order and its values do. -/
theorem survives_table_iff {u : Table α} :
    Survives (table? read) (fun u => .obj (Table.mapValues write u)) u ↔
      Table.Sorted u ∧ ∀ e ∈ u, Survives read write e.2 := by
  have hsent : sent (.obj (Table.mapValues write u)) =
      .obj (Table.mapValues (fun a => (write a).sent) u) := by
    rw [sent, sentMembers_eq_mapValues, Table.mapValues, Table.mapValues, List.map_map]
    rfl
  constructor
  · intro h
    have hwritable : (sent (.obj (Table.mapValues write u))).Writable := h.writable
    have hreads : table? read (sent (.obj (Table.mapValues write u))) = some u := h.reads
    rw [hsent] at hwritable hreads
    rw [writable_obj_iff, Table.mapValues, List.forall_mem_map] at hwritable
    refine ⟨?_, fun e he => ?_⟩
    · have hkeys : (u.map fun e => (e.1, (write e.2).sent)).map Prod.fst = u.map Prod.fst := by
        rw [List.map_map]
        rfl
      rw [sorted_iff_keys, ← hkeys, ← sorted_iff_keys]
      exact hwritable.1
    · exact ⟨hwritable.2 e he, readValues_mapValues_eq_iff.1 hreads e he⟩
  · rintro ⟨hsorted, h⟩
    refine ⟨?_, ?_⟩
    · show (sent (.obj (Table.mapValues write u))).Writable
      rw [hsent, writable_obj_iff]
      exact ⟨hsorted.mapValues _, List.forall_mem_map.2 fun e he => (h e he).writable⟩
    · show table? read (sent (.obj (Table.mapValues write u))) = some u
      rw [hsent]
      exact readValues_mapValues_eq_iff.2 fun e he => (h e he).reads

/-! ## Records that arrive -/

/-- The entries of the record that arrives. -/
def arriving (entries : List (String × Option Json)) : List (String × Option Json) :=
  entries.map fun e => (e.1, e.2.map sent)

/-- A record arrives with the entries that do. -/
lemma sent_record (entries : List (String × Option Json)) :
    (record entries).sent = record (arriving entries) := by
  have hmembers : Table.mapValues sent (members entries) = members (arriving entries) := by
    induction entries with
    | nil => rfl
    | cons e rest ih =>
      obtain ⟨k, x⟩ := e
      cases x with
      | none => exact ih
      | some x =>
        show Table.mapValues sent (Table.insert k x (members rest)) =
          Table.insert k x.sent (members (arriving rest))
        rw [← ih, Table.insert_mapValues]
  rw [record, sent, sentMembers_eq_mapValues, hmembers, record]

variable {entries : List (String × Option Json)} {t : Table Json} {key : String}

/-- The record that arrives holds what arrives of every entry. -/
lemma holds_arriving (hnodup : (entries.map Prod.fst).Nodup) :
    Holds (members (arriving entries)) (arriving entries) := by
  have hkeys : (arriving entries).map Prod.fst = entries.map Prod.fst := by
    rw [arriving, List.map_map]
    rfl
  exact holds_members (hkeys ▸ hnodup)

/-- The record that arrives has a text if every entry that arrives has one. -/
lemma writable_arriving_iff (hnodup : (entries.map Prod.fst).Nodup) :
    (record (arriving entries)).Writable ↔ ∀ e ∈ entries, ∀ x ∈ e.2, x.sent.Writable := by
  rw [record, writable_obj_iff]
  constructor
  · rintro ⟨-, h⟩ e he x hx
    have hfind : Table.find? e.1 (members (arriving entries)) = e.2.map sent :=
      holds_arriving hnodup (e.1, e.2.map sent) (List.mem_map_of_mem he)
    rw [Option.mem_def.1 hx] at hfind
    exact h (e.1, x.sent) (Table.mem_of_find? hfind)
  · intro h
    refine ⟨sorted_members _, fun e he => ?_⟩
    obtain ⟨e', he', heq⟩ := List.mem_map.1 (mem_entries_of_mem_members he)
    obtain ⟨x, hx, hxe⟩ := Option.map_eq_some_iff.1 (congrArg Prod.snd heq)
    exact hxe ▸ h e' he' x hx

/-! ## Fields that arrive -/

/-- Entries of a record that arrive under a condition: it decides, for a table that holds what
arrives of them, whether they have texts there and are read as they were. -/
def Arrives (entries : List (String × Option Json)) (reads : Table Json → Prop) (P : Prop) : Prop :=
  ∀ t, Holds t (arriving entries) → ((∀ e ∈ entries, ∀ x ∈ e.2, x.sent.Writable) ∧ reads t ↔ P)

namespace Arrives

variable {e : String × Option Json} {reads reads' : Table Json → Prop} {P Q : Prop}

/-- An entry by itself. -/
lemma entry {x : Option Json} (h : ∀ t, Table.find? key t = x.map sent →
    ((∀ y ∈ x, y.sent.Writable) ∧ reads t ↔ P)) : Arrives [(key, x)] reads P := by
  intro t ht
  rw [← h t (ht _ List.mem_cons_self), List.forall_mem_singleton]

/-- An entry before others. -/
lemma cons (h : Arrives [e] reads P) (hrest : Arrives entries reads' Q) :
    Arrives (e :: entries) (fun t => reads t ∧ reads' t) (P ∧ Q) := by
  intro t ht
  obtain ⟨he, hentries⟩ := List.forall_mem_cons.1 ht
  rw [← h t (List.forall_mem_singleton.2 he), ← hrest t hentries, List.forall_mem_cons,
    List.forall_mem_singleton]
  exact and_and_and_comm

/-- The same can be said of the entries and what is read in other words. -/
lemma congr (h : Arrives entries reads P) (hreads : ∀ t, reads t ↔ reads' t) (hPQ : P ↔ Q) :
    Arrives entries reads' Q := fun t ht => by rw [← hreads, h t ht, hPQ]

end Arrives

/-- **What is written as a record survives** under the condition under which its entries arrive. -/
theorem survives_record_iff {a : α} {P : Prop} (hwrite : write a = record entries)
    (hnodup : (entries.map Prod.fst).Nodup)
    (h : Arrives entries (fun t => read (.obj t) = some a) P) : Survives read write a ↔ P := by
  have hsent : (write a).sent = record (arriving entries) := by rw [hwrite, sent_record]
  have harrives : (∀ e ∈ entries, ∀ x ∈ e.2, x.sent.Writable) ∧
      read (record (arriving entries)) = some a ↔ P := h _ (holds_arriving hnodup)
  rw [← harrives, ← writable_arriving_iff hnodup, ← hsent]
  exact ⟨fun ha => ⟨ha.writable, ha.reads⟩, fun ha => ⟨ha.1, ha.2⟩⟩

section

variable {a : α} {o : Option α} {P : Prop}

/-- A field that is always written arrives if it survives. -/
lemma arrives_present {reads : Table Json → Prop} (h : Survives read write a ↔ P)
    (hreads : ∀ t, Table.find? key t = some (write a).sent →
      (reads t ↔ read (write a).sent = some a)) :
    Arrives [(key, some (write a))] reads P := by
  refine .entry fun t ht => ?_
  rw [hreads t ht, ← h]
  exact ⟨fun ha => ⟨ha.1 _ rfl, ha.2⟩,
    fun ha => ⟨fun _ hx => Option.some.inj hx ▸ ha.writable, ha.reads⟩⟩

/-- A field that has to be present. -/
lemma arrives_required (h : Survives read write a ↔ P) (key : String) :
    Arrives [(key, some (write a))] (fun t => required key read t = some a) P :=
  arrives_present h fun t ht => by rw [required, ht, Option.bind_some]

/-- A field with a default that is always written. -/
lemma arrives_defaulted (h : Survives read write a ↔ P) (key : String) (default : α) :
    Arrives [(key, some (write a))] (fun t => defaulted key default read t = some a) P :=
  arrives_present h fun t ht => by rw [defaulted, ht]

/-- A table that is left out when it is empty. -/
lemma arrives_nonemptyTable (read : Json → Option α) (write : α → Json) (u : Table α)
    (key : String) :
    Arrives [(key, ofNonemptyTable write u)] (fun t => defaulted key [] (table? read) t = some u)
      (Table.Sorted u ∧ ∀ e ∈ u, Survives read write e.2) := by
  cases u with
  | nil =>
    refine .entry fun t ht => iff_of_true ⟨nofun, ?_⟩ ⟨Table.sorted_nil, nofun⟩
    rw [defaulted, ht]
    rfl
  | cons e rest => exact arrives_defaulted survives_table_iff key []

/-- A field that may be absent arrives, where it is there, if it survives, and not as null. -/
lemma arrives_some (h : (write a).sent ≠ .null ∧ Survives read write a ↔ P) (key : String) :
    Arrives [(key, some (write a))] (fun t => optional key read t = some (some a)) P := by
  refine .entry fun t ht => ?_
  have hread : optional key read t = some (some a) ↔
      (write a).sent ≠ .null ∧ read (write a).sent = some a := by
    rw [optional, ht, Option.map_some]
    cases (write a).sent <;> simp
  rw [hread, ← h]
  exact ⟨fun ha => ⟨ha.2.1, ha.1 _ rfl, ha.2.2⟩,
    fun ha => ⟨fun _ hx => Option.some.inj hx ▸ ha.2.writable, ha.1, ha.2.reads⟩⟩

variable {P : α → Prop}

/-- A field that may be absent. -/
lemma arrives_optional (h : ∀ a, (write a).sent ≠ .null ∧ Survives read write a ↔ P a)
    (o : Option α) (key : String) :
    Arrives [(key, o.map write)] (fun t => optional key read t = some o) (∀ a ∈ o, P a) := by
  cases o with
  | none => exact .entry fun t ht => iff_of_true ⟨nofun, by rw [optional, ht]; rfl⟩ nofun
  | some a => exact (arrives_some (h a) key).congr (fun _ => Iff.rfl) (by simp)

/-- A field that may be absent and is never null. -/
lemma arrives_optional_of_ne_null (h : ∀ a, Survives read write a ↔ P a)
    (hne : ∀ a, (write a).sent ≠ .null) (o : Option α) (key : String) :
    Arrives [(key, o.map write)] (fun t => optional key read t = some o) (∀ a ∈ o, P a) :=
  arrives_optional (fun a => (and_iff_right (hne a)).trans (h a)) o key

/-- A field that is null where there is nothing. -/
lemma arrives_ofOption (h : ∀ a, (write a).sent ≠ .null ∧ Survives read write a ↔ P a)
    (o : Option α) (key : String) :
    Arrives [(key, some (ofOption write o))] (fun t => optional key read t = some o)
      (∀ a ∈ o, P a) := by
  cases o with
  | none =>
    refine .entry fun t ht => iff_of_true ⟨fun x hx => ?_, by rw [optional, ht]; rfl⟩ nofun
    exact Option.some.inj hx ▸ .null
  | some a => exact (arrives_some (h a) key).congr (fun _ => Iff.rfl) (by simp)

end

end

end Json

/-! ## Values -/

namespace Value

/-- Values that a document can say: integers of 64 bits, finite numbers of 64 bits, and what they
are the parts of. -/
inductive Expressible : Value → Prop where
  | null : Expressible .null
  | bool (b : Bool) : Expressible (.bool b)
  | long (n : Int64) : Expressible (.long n)
  | double {x : Double} (finite : x.isFinite = true) : Expressible (.double x)
  | str (s : String) : Expressible (.str s)
  | list {items : List Value} (each : ∀ v ∈ items, Expressible v) : Expressible (.list items)
  | map {members : List (String × Value)} (sorted : Table.Sorted members)
      (each : ∀ e ∈ members, Expressible e.2) : Expressible (.map members)

/-- The value that a document says is one that a document can say. -/
lemma expressible_ofJson {x : Json} (hx : x.Writable) : (ofJson x).Expressible := by
  induction hx with
  | null => exact .null
  | bool b => exact .bool b
  | @int n lower upper =>
    rw [ofJson, ofInt]
    split
    · exact .long _
    · have hlower : Int64.minValue.toInt = -2 ^ 63 := by decide
      have hupper : ((UInt64.size : Nat) : Int) = 2 ^ 64 := by decide
      exact .double (Floating.isFinite_ofInt (by omega))
  | double finite =>
    rw [ofJson, if_pos finite]
    exact .double finite
  | str s => exact .str s
  | arr _ ih =>
    rw [ofJson, ofJsonItems_eq_map]
    exact .list (List.forall_mem_map.2 ih)
  | obj sorted _ ih =>
    rw [ofJson, ofJsonMembers_eq_map]
    exact .map (sorted.mapValues ofJson) (List.forall_mem_map.2 ih)

/-- A value that a document can say is said by its own document. -/
lemma Expressible.ofJson_toJson {v : Value} (h : v.Expressible) :
    v.toJson.Writable ∧ ofJson v.toJson = v := by
  induction h with
  | null => exact ⟨.null, rfl⟩
  | bool b => exact ⟨.bool b, rfl⟩
  | long n =>
    have hlower : Int64.minValue.toInt ≤ n.toInt := Int64.minValue_le_toInt n
    have hupper : n.toInt ≤ Int64.maxValue.toInt := Int64.toInt_le n
    refine ⟨.int hlower (Int.lt_of_le_of_lt hupper (by decide)), ?_⟩
    rw [toJson, ofJson, ofInt, if_pos ⟨hlower, hupper⟩, Int64.ofInt_toInt]
  | double finite =>
    rw [toJson, if_pos finite, ofJson, if_pos finite]
    exact ⟨.double finite, rfl⟩
  | str s => exact ⟨.str s, rfl⟩
  | @list items _ ih =>
    rw [toJson, toJsonItems_eq_map, ofJson, ofJsonItems_eq_map, List.map_map]
    refine ⟨.arr (List.forall_mem_map.2 fun v hv => (ih v hv).1), ?_⟩
    exact congrArg Value.list ((List.map_congr_left fun v hv => (ih v hv).2).trans (List.map_id _))
  | @map members sorted _ ih =>
    rw [toJson, toJsonMembers_eq_map, ofJson, ofJsonMembers_eq_map, List.map_map]
    refine ⟨.obj (sorted.mapValues toJson) (List.forall_mem_map.2 fun e he => (ih e he).1), ?_⟩
    have hmembers : ∀ e ∈ members, (e.1, ofJson e.2.toJson) = e := fun e he =>
      congrArg (Prod.mk e.1) (ih e he).2
    exact congrArg Value.map ((List.map_congr_left hmembers).trans (List.map_id _))

/-- A value that a document can say is written as it was read. -/
lemma Expressible.rewrites {v : Value} (h : v.Expressible) :
    Json.Rewrites (fun x => some (ofJson x)) toJson v :=
  ⟨h.ofJson_toJson.1, congrArg some h.ofJson_toJson.2⟩

/-- Only null is read from null. -/
lemma Expressible.toJson_ne_null {v : Value} (h : v.Expressible) (hne : v ≠ .null) :
    v.toJson ≠ .null := by
  intro hnull
  apply hne
  rw [← h.ofJson_toJson.2, hnull]
  rfl

/-- What is no null is not read as null. -/
lemma ofJson_ne_null {x : Json} (hx : x.Writable) (hne : x ≠ .null) : ofJson x ≠ null := by
  intro hnull
  apply (rewrites_of_writable hx).2 hne
  rw [hnull]
  rfl

/-- **Values survive** exactly if a document can say them. -/
theorem survives_iff (v : Value) :
    Json.Survives (fun x => some (ofJson x)) toJson v ↔ v.Expressible := by
  constructor
  · intro h
    have hreads : ofJson v.toJson.sent = v := Option.some.inj h.reads
    exact hreads ▸ expressible_ofJson h.writable
  · exact fun h => h.rewrites.survives

/-- In a field that may be absent, null is read as nothing. -/
lemma survives_present_iff (v : Value) :
    v.toJson.sent ≠ .null ∧ Json.Survives (fun x => some (ofJson x)) toJson v ↔
      v ≠ .null ∧ v.Expressible := by
  rw [survives_iff]
  refine and_congr_left fun h => ?_
  rw [h.ofJson_toJson.1.sent_eq]
  constructor
  · rintro hne rfl
    exact hne rfl
  · exact h.toJson_ne_null

end Value

end Sift
