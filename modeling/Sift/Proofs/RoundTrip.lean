import Sift.Proofs.IntegerRounding
import Sift.Proofs.WrittenRecords
import Sift.Search.Request

/-!
# Decoding what was encoded

Queries, aggregations and requests that come from a document are encoded as a document with a text,
which is decoded as the same query, aggregation or request. The law goes through all that they
contain: values, bounds, ranges, filters inside aggregations, aggregations inside aggregations, and
the documents that settings and parameters hold.

## Main results

* `Sift.Value.faithful`: values.
* `Sift.Query.faithful`, `Sift.Aggregation.faithful`, `Sift.SearchRequest.faithful`: what contains
  values.
* `Sift.Json.decode_encode`: all of them at once.
-/

set_option autoImplicit false

namespace Sift

open Json (Writable WritableTable Rewrites Carries Faithful)

/-! ## Numbers and values -/

/-- Integers of 64 bits are rounded to finite numbers. -/
lemma Floating.isFinite_ofInt {n : Int} (h : n.natAbs ≤ 2 ^ 64) :
    (ofInt n : Double).isFinite = true := by
  have hle : binary64.roundRatio n.natAbs 1 ≤ binary64.roundRatio (2 ^ 64) 1 :=
    BinaryFormat.roundRatio_one_le BinaryFormat.wide_binary64 h
  have hlt : binary64.roundRatio (2 ^ 64) 1 < binary64.infinity := by decide +kernel
  simp only [ofInt, ofRatio, ofMagnitude, isFinite, binary64.roundRatio_mod_magnitudes,
    decide_eq_true_eq]
  omega

/-- A double of a document is written as it was read. -/
lemma Json.faithful_double : Faithful double? .double where
  rewrites {x a} hx h := by
    cases hx with
    | @int n lower upper =>
      obtain rfl := Option.some.inj h
      have hlower : Int64.minValue.toInt = -2 ^ 63 := by decide
      have hupper : ((UInt64.size : Nat) : Int) = 2 ^ 64 := by decide
      exact ⟨.double (Floating.isFinite_ofInt (by omega)), rfl⟩
    | double finite =>
      obtain rfl := Option.some.inj h
      exact ⟨.double finite, rfl⟩
    | _ => cases h
  ne_null _ _ _ := nofun

namespace Value

/-- An integer is read as a long, or as the finite number that it is rounded to. -/
lemma rewrites_ofInt {n : Int} (lower : Int64.minValue.toInt ≤ n) (upper : n < UInt64.size) :
    Rewrites (fun x => some (ofJson x)) toJson (ofInt n) ∧ (ofInt n).toJson ≠ .null := by
  unfold ofInt
  split
  · rename_i h
    have hn : (Int64.ofInt n).toInt = n :=
      Int64.toInt_ofInt_of_le h.1 (Int.lt_of_le_of_lt h.2 (by decide))
    have hjson : (long (Int64.ofInt n)).toJson = .int n := by rw [toJson, hn]
    refine ⟨⟨hjson ▸ .int lower upper, ?_⟩, by rw [hjson]; nofun⟩
    show some (ofJson (long (Int64.ofInt n)).toJson) = _
    rw [hjson, ofJson, ofInt, if_pos h]
  · have hlower : Int64.minValue.toInt = -2 ^ 63 := by decide
    have hupper : ((UInt64.size : Nat) : Int) = 2 ^ 64 := by decide
    have hfinite : (Floating.ofInt n : Double).isFinite = true :=
      Floating.isFinite_ofInt (by omega)
    have hjson : (double (Floating.ofInt n)).toJson = .double (Floating.ofInt n) := by
      rw [toJson, if_pos hfinite]
    refine ⟨⟨hjson ▸ .double hfinite, ?_⟩, by rw [hjson]; nofun⟩
    show some (ofJson (double (Floating.ofInt n)).toJson) = _
    rw [hjson, ofJson, if_pos hfinite]

/-- The value of a document with a text is written and read again. -/
lemma rewrites_of_writable {x : Json} (hx : x.Writable) :
    Rewrites (fun x => some (ofJson x)) toJson (ofJson x) ∧
      (x ≠ .null → (ofJson x).toJson ≠ .null) := by
  induction hx with
  | null => exact ⟨⟨.null, rfl⟩, fun h => absurd rfl h⟩
  | bool b => exact ⟨⟨.bool b, rfl⟩, fun _ => nofun⟩
  | int lower upper =>
    have hint := rewrites_ofInt lower upper
    exact ⟨hint.1, fun _ => hint.2⟩
  | @double x finite =>
    have hvalue : ofJson (.double x) = double x := by rw [ofJson, if_pos finite]
    have hjson : (double x).toJson = .double x := by rw [toJson, if_pos finite]
    rw [hvalue]
    refine ⟨⟨hjson ▸ .double finite, ?_⟩, fun _ => by rw [hjson]; nofun⟩
    show some (ofJson (double x).toJson) = _
    rw [hjson, hvalue]
  | str s => exact ⟨⟨.str s, rfl⟩, fun _ => nofun⟩
  | @arr items _ ih =>
    have heach : ∀ x ∈ items, ofJson (ofJson x).toJson = ofJson x := fun x hx =>
      Option.some.inj (ih x hx).1.reads
    refine ⟨⟨?_, ?_⟩, fun _ => nofun⟩
    · simp only [ofJson, toJson, ofJsonItems_eq_map, toJsonItems_eq_map, List.map_map]
      exact .arr (List.forall_mem_map.2 fun x hx => (ih x hx).1.writable)
    · simp only [ofJson, toJson, ofJsonItems_eq_map, toJsonItems_eq_map, List.map_map]
      exact congrArg (some ∘ list) (List.map_congr_left heach)
  | @obj members sorted _ ih =>
    have heach : ∀ e ∈ members, (e.1, ofJson (ofJson e.2).toJson) = (e.1, ofJson e.2) :=
      fun e he => congrArg (Prod.mk e.1) (Option.some.inj (ih e he).1.reads)
    refine ⟨⟨?_, ?_⟩, fun _ => nofun⟩
    · simp only [ofJson, toJson, ofJsonMembers_eq_map, toJsonMembers_eq_map, List.map_map]
      exact .obj (sorted.mapValues (toJson ∘ ofJson))
        (List.forall_mem_map.2 fun e he => (ih e he).1.writable)
    · simp only [ofJson, toJson, ofJsonMembers_eq_map, toJsonMembers_eq_map, List.map_map]
      exact congrArg (some ∘ map) (List.map_congr_left heach)

/-- **Values** of documents are written and read again. -/
theorem faithful : Faithful (fun x => some (ofJson x)) toJson where
  rewrites hx h := Option.some.inj h ▸ (rewrites_of_writable hx).1
  ne_null hx hne h := Option.some.inj h ▸ (rewrites_of_writable hx).2 hne

end Value

/-! ## Conditions -/

/-- A bound is written as it was read. -/
lemma Bounds.faithful_bound : Faithful bound? Value.toJson := Value.faithful

/-- The members for bounds say the bounds that were read. -/
lemma Bounds.carries {t : Table Json} (ht : WritableTable t) {b : Bounds}
    (h : ofFields? t = some b) : Carries b.entries fun u => ofFields? u = some b := by
  unfold ofFields? at h
  split at h
  · rename_i lt lte gt gte hlt hlte hgt hgte
    obtain rfl := Option.some.inj h
    have hlt := faithful_bound.optional ht hlt
    have hlte := faithful_bound.optional ht hlte
    have hgt := faithful_bound.optional ht hgt
    have hgte := faithful_bound.optional ht hgte
    refine (hlt.cons (hlte.cons (hgt.cons hgte))).imp fun u hu => ?_
    obtain ⟨h₁, h₂, h₃, h₄⟩ := hu
    rw [ofFields?, h₁, h₂, h₃, h₄]
  · cases h

/-- The condition of a leaf is read again under the kind of the leaf. -/
lemma Condition.carries {t : Table Json} (ht : WritableTable t) {kind : String}
    {c : Condition} (h : ofFields? kind t = some c) :
    c.kind = kind ∧ Carries c.entries fun u => ofFields? kind u = some c := by
  unfold ofFields? at h
  split at h
  · obtain ⟨v, hv, rfl⟩ := Option.map_eq_some_iff.1 h
    refine ⟨rfl, (Value.faithful.required ht hv).imp fun u hu => ?_⟩
    rw [ofFields?, hu, Option.map_some]
  · obtain ⟨vs, hvs, rfl⟩ := Option.map_eq_some_iff.1 h
    refine ⟨rfl, (Value.faithful.list.required ht hvs).imp fun u hu => ?_⟩
    rw [ofFields?, hu, Option.map_some]
  · obtain ⟨tokens, htokens, rfl⟩ := Option.map_eq_some_iff.1 h
    refine ⟨rfl, (Json.faithful_text.list.required ht htokens).imp fun u hu => ?_⟩
    rw [ofFields?, hu, Option.map_some]
  · obtain ⟨s, hs, rfl⟩ := Option.map_eq_some_iff.1 h
    refine ⟨rfl, (Json.faithful_text.required ht hs).imp fun u hu => ?_⟩
    rw [ofFields?, hu, Option.map_some]
  · obtain ⟨s, hs, rfl⟩ := Option.map_eq_some_iff.1 h
    refine ⟨rfl, (Json.faithful_text.required ht hs).imp fun u hu => ?_⟩
    rw [ofFields?, hu, Option.map_some]
  · obtain ⟨s, hs, rfl⟩ := Option.map_eq_some_iff.1 h
    refine ⟨rfl, (Json.faithful_text.required ht hs).imp fun u hu => ?_⟩
    rw [ofFields?, hu, Option.map_some]
  · obtain ⟨b, hb, rfl⟩ := Option.map_eq_some_iff.1 h
    refine ⟨rfl, (Bounds.carries ht hb).imp fun u hu => ?_⟩
    rw [ofFields?, hu, Option.map_some]
  · split at h
    · rename_i b tz hb htz
      obtain rfl := Option.some.inj h
      have hb := Bounds.carries ht hb
      have htz := Json.faithful_text.optional ht htz
      refine ⟨rfl, (hb.append htz).imp fun u hu => ?_⟩
      obtain ⟨h₁, h₂⟩ := hu
      rw [ofFields?, h₁, h₂]
    · cases h
  · cases h

/-! ## Queries -/

namespace Query

/-- The entries of the record of a query. -/
def entries : Query → List (String × Option Json)
  | and of => [("type", some (.str "and")), ("of", some (.arr (of.map toJson)))]
  | or of => [("type", some (.str "or")), ("of", some (.arr (of.map toJson)))]
  | not of => [("type", some (.str "not")), ("of", some (.arr (of.map toJson)))]
  | leaf f c => ("type", some (.str c.kind)) :: ("field", some (.str f)) :: c.entries
  | text s d =>
    [("type", some (.str "lucene")), ("query", some (.str s)), ("default_field", d.map .str)]
  | named n v =>
    [("type", some (.str "named")), ("name", some (.str n)), ("value", some v.toJson)]
  | matchAll => [("type", some (.str "match_all"))]

/-- A query is written as the record of its entries. -/
lemma toJson_eq_record (q : Query) : q.toJson = .record q.entries := by
  cases q with
  | and of | or of | not of => rw [toJson, toJsonList_eq_map, entries]
  | leaf f c | text s d | named n v | matchAll => rw [toJson, entries]

/-- No two members of a query have the same name. -/
lemma nodup_entries (q : Query) : (q.entries.map Prod.fst).Nodup := by
  cases q with
  | leaf f c => cases c <;> simp [entries, Condition.entries, Bounds.entries]
  | and _ | or _ | not _ | text _ _ | named _ _ | matchAll => simp [entries]

/-- A query says its kind. -/
lemma type_mem_entries (q : Query) : ("type", some (.str q.kind)) ∈ q.entries := by
  cases q <;> exact List.mem_cons_self

/-- The kind of a query is one of the kinds. -/
lemma kind_mem_kinds (q : Query) : q.kind ∈ kinds := by
  cases q with
  | leaf f c => cases c <;> simp [kind, Condition.kind, kinds]
  | and _ | or _ | not _ | text _ _ | named _ _ | matchAll => simp [kind, kinds]

/-- The parts of a connective are found in the member for them. -/
lemma partsIn?_eq_bind (members : List (String × Json)) :
    partsIn? members = (Table.find? "of" members).bind parts? := by
  induction members with
  | nil => rfl
  | cons e rest ih =>
    obtain ⟨k, x⟩ := e
    rw [partsIn?, Table.find?, ih]
    split <;> rfl

/-- The parts of a connective are read like any list. -/
lemma parts?_eq_list? (x : Json) : parts? x = Json.list? (ofJson? true) x := by
  cases x with
  | arr items => rw [parts?, ofJsonList?_eq_readAll, Json.list?]
  | _ => rfl

/-- The record of a query is decoded by the kind of the query. -/
lemma ofJson?_toJson (nested : Bool) (q : Query) :
    ofJson? nested q.toJson =
      assemble? q.kind ((Table.find? "of" (Json.members q.entries)).bind parts?)
        (.record q.entries) := by
  have hfind : Table.find? "type" (Json.members q.entries) = some (.str q.kind) :=
    Json.holds_members q.nodup_entries _ q.type_mem_entries
  have htag : Json.tag? kinds nested (.str q.kind) = some q.kind := by
    rw [Json.tag?, if_pos (List.contains_iff_mem.2 q.kind_mem_kinds)]
  rw [toJson_eq_record, Json.record, ofJson?, hfind, Option.bind_some, htag, partsIn?_eq_bind]

/-- A query is written and read again if its entries carry it. -/
lemma rewrites_of_entries {q : Query}
    (h : Carries q.entries fun u =>
      assemble? q.kind ((Table.find? "of" u).bind parts?) (.obj u) = some q)
    (nested : Bool) : Rewrites (ofJson? nested) toJson q where
  writable := q.toJson_eq_record ▸ h.writable_record
  reads := (ofJson?_toJson nested q).trans (h.members q.nodup_entries)

/-- A connective is written and read again if its parts are. -/
lemma rewrites_connective {of : List Query} (h : ∀ q ∈ of, Rewrites (ofJson? true) toJson q)
    {q : Query} (hq : q = .and of ∨ q = .or of ∨ q = .not of) (nested : Bool) :
    Rewrites (ofJson? nested) toJson q := by
  have hof : Carries [("of", some (.arr (of.map toJson)))] fun u =>
      (Table.find? "of" u).bind parts? = some of := by
    refine ((Rewrites.list h).carries "of").imp fun u hu => ?_
    rw [hu.1, Option.bind_some, parts?_eq_list?]
    exact hu.2
  refine rewrites_of_entries ?_ nested
  rcases hq with rfl | rfl | rfl <;>
  · refine ((Json.carries_text _ _).cons hof).imp fun u hu => ?_
    rw [hu.2]
    rfl

/-- The kind of a condition is no connective. -/
lemma assemble?_condition (c : Condition) (parts : Option (List Query)) (rest : Json) :
    assemble? c.kind parts rest = flat? c.kind rest := by
  cases c <;> rfl

/-- The fields of a leaf are read under the kind of its condition. -/
lemma flat?_condition {f : String} {c : Condition} {t : Table Json}
    (hf : Json.required "field" Json.text? t = some f)
    (hc : Condition.ofFields? c.kind t = some c) : flat? c.kind (.obj t) = some (leaf f c) := by
  have hkind : c.kind ∉ ["lucene", "named", "match_all"] := by
    cases c <;> simp only [Condition.kind] <;> decide
  unfold flat?
  split
  -- no condition is of the first three kinds
  · simp_all
  · simp_all
  · simp_all
  · simp only [Json.fields?, Option.bind_some, hf, hc]

/-- What a document without parts says is written and read again. -/
lemma rewrites_of_flat {kind : String} {rest : Json} (hrest : rest.Writable) {q : Query}
    (h : flat? kind rest = some q) (nested : Bool) : Rewrites (ofJson? nested) toJson q := by
  refine rewrites_of_entries ?_ nested
  unfold flat? at h
  split at h
  · obtain ⟨t, ht, h⟩ := Option.bind_eq_some_iff.1 h
    split at h
    · rename_i s d hs hd
      obtain rfl := Option.some.inj h
      have hs := Json.faithful_text.required (hrest.fields? ht) hs
      have hd := Json.faithful_text.optional (hrest.fields? ht) hd
      refine ((Json.carries_text _ _).cons (hs.cons hd)).imp fun u hu => ?_
      obtain ⟨-, h₁, h₂⟩ := hu
      simp only [kind, assemble?, flat?, Json.fields?, Option.bind_some, h₁, h₂]
      rfl
    · cases h
  · obtain ⟨t, ht, h⟩ := Option.bind_eq_some_iff.1 h
    split at h
    · rename_i n v hn hv
      obtain rfl := Option.some.inj h
      have hn := Json.faithful_text.required (hrest.fields? ht) hn
      have hv := Value.faithful.required (hrest.fields? ht) hv
      refine ((Json.carries_text _ _).cons (hn.cons hv)).imp fun u hu => ?_
      obtain ⟨-, h₁, h₂⟩ := hu
      simp only [kind, assemble?, flat?, Json.fields?, Option.bind_some, h₁, h₂]
      rfl
    · cases h
  · obtain ⟨t, -, rfl⟩ := Option.map_eq_some_iff.1 h
    exact (Json.carries_text _ _).imp fun _ _ => rfl
  · obtain ⟨t, ht, h⟩ := Option.bind_eq_some_iff.1 h
    split at h
    · rename_i f c hf hc
      obtain rfl := Option.some.inj h
      have hf := Json.faithful_text.required (hrest.fields? ht) hf
      obtain ⟨rfl, hc⟩ := Condition.carries (hrest.fields? ht) hc
      refine ((Json.carries_text _ _).cons (hf.cons hc)).imp fun u hu => ?_
      obtain ⟨-, h₁, h₂⟩ := hu
      rw [kind, assemble?_condition, flat?_condition h₁ h₂]
    · cases h

/-- What decoding gives is a connective of decoded parts, or what the other fields say. -/
lemma assemble?_cases {kind : String} {parts : Option (List Query)} {rest : Json} {q : Query}
    (h : assemble? kind parts rest = some q) :
    (∃ of, parts = some of ∧ (q = .and of ∨ q = .or of ∨ q = .not of)) ∨
      flat? kind rest = some q := by
  unfold assemble? at h
  split at h
  · obtain ⟨of, hof, rfl⟩ := Option.map_eq_some_iff.1 h
    exact .inl ⟨of, hof, .inl rfl⟩
  · obtain ⟨of, hof, rfl⟩ := Option.map_eq_some_iff.1 h
    exact .inl ⟨of, hof, .inr (.inl rfl)⟩
  · obtain ⟨of, hof, rfl⟩ := Option.map_eq_some_iff.1 h
    exact .inl ⟨of, hof, .inr (.inr rfl)⟩
  · exact .inr h

/-- The query of a document with a text is written and read again, and so are the queries of a list
of them.

**Proof sketch.** Induction on the document. The parts of a connective are elements of a list that
is a member or an element of the document, so that the law is carried along for such lists too. -/
theorem rewrites_of_writable {x : Json} (hx : x.Writable) :
    (∀ nested q, ofJson? nested x = some q → ∀ nested', Rewrites (ofJson? nested') toJson q) ∧
      ∀ qs, parts? x = some qs → ∀ q ∈ qs, Rewrites (ofJson? true) toJson q := by
  -- A document that is not flat has the parts of its query in one of its children.
  have hstep : ∀ {kind : String} {parts : Option (List Query)} {rest : Json} {q : Query},
      rest.Writable →
      (∀ qs, parts = some qs → ∀ q ∈ qs, Rewrites (ofJson? true) toJson q) →
      assemble? kind parts rest = some q → ∀ nested, Rewrites (ofJson? nested) toJson q := by
    intro kind parts rest q hrest hparts h nested
    rcases assemble?_cases h with ⟨of, hof, hq⟩ | hflat
    · exact rewrites_connective (hparts of hof) hq nested
    · exact rewrites_of_flat hrest hflat nested
  induction hx with
  | null | bool | int | double | str => exact ⟨nofun, nofun⟩
  | @arr items each ih =>
    refine ⟨?_, fun qs hqs q hq => ?_⟩
    · cases items with
      | nil => exact nofun
      | cons tag rest =>
        intro nested q h
        rw [ofJson?] at h
        split at h
        · refine hstep (.arr fun x hx => each x (List.mem_cons_of_mem _ hx)) ?_ h
          intro qs hqs
          unfold onlyParts? at hqs
          split at hqs
          · exact (ih _ (List.mem_cons_of_mem _ List.mem_cons_self)).2 qs hqs
          · cases hqs
        · cases h
    · rw [parts?_eq_list?] at hqs
      obtain ⟨x, hx, hxq⟩ := Json.exists_of_readAll hqs hq
      exact (ih x hx).1 true q hxq true
  | @obj members sorted each ih =>
    refine ⟨fun nested q h => ?_, nofun⟩
    rw [ofJson?] at h
    split at h
    · refine hstep (.obj sorted each) ?_ h
      intro qs hqs
      rw [partsIn?_eq_bind] at hqs
      obtain ⟨x, hx, hxqs⟩ := Option.bind_eq_some_iff.1 hqs
      exact (ih _ (Table.mem_of_find? hx)).2 qs hxqs
    · cases h

/-- **Queries** of documents are written and read again. -/
theorem faithful (nested : Bool) : Faithful (ofJson? nested) toJson where
  rewrites hx h := (rewrites_of_writable hx).1 nested _ h nested
  ne_null _ _ _ := by rw [toJson_eq_record]; nofun

end Query

/-! ## Groupings -/

/-- A place is written as it was read. -/
theorem GeoPoint.faithful : Faithful ofJson? toJson := by
  refine .ofFields (fun _ => rfl) (fun _ => rfl) (fun ht h => ?_) fun _ => by simp
  split at h
  · rename_i lat lon hlat hlon
    obtain rfl := Option.some.inj h
    have hlat := Json.faithful_double.required ht hlat
    have hlon := Json.faithful_double.required ht hlon
    refine (hlat.cons hlon).imp fun u hu => ?_
    obtain ⟨h₁, h₂⟩ := hu
    rw [h₁, h₂]
  · cases h

/-- A range is written as it was read if its ends are. -/
theorem RangeEntry.faithful {α : Type} {read : Json → Option α} {write : α → Json}
    (hf : Faithful read write) : Faithful (ofJson? read) (toJson write) := by
  refine .ofFields (fun _ => rfl) (fun _ => rfl) (fun ht h => ?_) fun _ => by simp
  split at h
  · rename_i key lower upper hkey hlower hupper
    obtain rfl := Option.some.inj h
    have hkey := Json.faithful_text.optional ht hkey
    have hlower := hf.optional ht hlower
    have hupper := hf.optional ht hupper
    refine (hkey.cons (hlower.cons hupper)).imp fun u hu => ?_
    obtain ⟨h₁, h₂, h₃⟩ := hu
    rw [h₁, h₂, h₃]
  · cases h

/-- The order of buckets is written as it was read. -/
theorem BucketOrder.faithful : Faithful ofJson? fun o => .str o.name where
  rewrites {x o} _ _ := ⟨.str _, by cases o <;> rfl⟩
  ne_null _ _ _ := nofun

namespace Grouping

/-- A value is written as it was read. -/
lemma faithful_value : Faithful value? Value.toJson := Value.faithful

/-- The ranges of a grouping. -/
lemma faithful_ranges {α : Type} {read : Json → Option α} {write : α → Json}
    (hf : Faithful read write) :
    Faithful (Json.list? (RangeEntry.ofJson? read)) fun ranges =>
      .arr (ranges.map (RangeEntry.toJson write)) :=
  (RangeEntry.faithful hf).list

/-- A grouping is read again under its kind. -/
lemma carries {t : Table Json} (ht : WritableTable t) {kind : String} {g : Grouping}
    (h : ofFields? kind t = some g) :
    g.kindName = kind ∧ Carries g.entries fun u => ofFields? kind u = some g := by
  have hdoubles := faithful_ranges Json.faithful_double
  have hvalues := faithful_ranges faithful_value
  unfold ofFields? at h
  split at h
  · split at h
    · rename_i size sort format m hsize hsort hformat hm
      obtain rfl := Option.some.inj h
      have hsize := Json.carries_optional_nat ht hsize
      have hsort := BucketOrder.faithful.optional ht hsort
      have hformat := Json.faithful_text.optional ht hformat
      have hm := faithful_value.optional ht hm
      refine ⟨rfl, (hsize.cons (hsort.cons (hformat.cons hm))).imp fun u hu => ?_⟩
      obtain ⟨h₁, h₂, h₃, h₄⟩ := hu
      simp only [ofFields?, h₁, h₂, h₃, h₄]
    · cases h
  · split at h
    · rename_i interval offset m hinterval hoffset hm
      obtain rfl := Option.some.inj h
      have hinterval := Json.faithful_double.required ht hinterval
      have hoffset := Json.faithful_double.optional ht hoffset
      have hm := faithful_value.optional ht hm
      refine ⟨rfl, (hinterval.cons (hoffset.cons hm)).imp fun u hu => ?_⟩
      obtain ⟨h₁, h₂, h₃⟩ := hu
      simp only [ofFields?, h₁, h₂, h₃]
    · cases h
  · split at h
    · rename_i interval format tz m hinterval hformat htz hm
      obtain rfl := Option.some.inj h
      have hinterval := Json.faithful_text.required ht hinterval
      have hformat := Json.faithful_text.optional ht hformat
      have htz := Json.faithful_text.optional ht htz
      have hm := faithful_value.optional ht hm
      refine ⟨rfl, (hinterval.cons (hformat.cons (htz.cons hm))).imp
        fun u hu => ?_⟩
      obtain ⟨h₁, h₂, h₃, h₄⟩ := hu
      simp only [ofFields?, h₁, h₂, h₃, h₄]
    · cases h
  · obtain ⟨ranges, hranges, rfl⟩ := Option.map_eq_some_iff.1 h
    refine ⟨rfl, (hdoubles.required ht hranges).imp fun u hu => ?_⟩
    simp only [ofFields?, hu, Option.map_some]
  · split at h
    · rename_i format tz ranges hformat htz hranges
      obtain rfl := Option.some.inj h
      have hformat := Json.faithful_text.optional ht hformat
      have htz := Json.faithful_text.optional ht htz
      have hranges := hvalues.required ht hranges
      refine ⟨rfl, (hformat.cons (htz.cons hranges)).imp fun u hu => ?_⟩
      obtain ⟨h₁, h₂, h₃⟩ := hu
      simp only [ofFields?, h₁, h₂, h₃]
    · cases h
  · obtain ⟨format, hformat, rfl⟩ := Option.map_eq_some_iff.1 h
    refine ⟨rfl, (Json.faithful_text.optional ht hformat).imp fun u hu => ?_⟩
    simp only [ofFields?, hu, Option.map_some]
  · obtain rfl := Option.some.inj h
    exact ⟨rfl, .nil rfl⟩
  · obtain rfl := Option.some.inj h
    exact ⟨rfl, .nil rfl⟩
  · obtain rfl := Option.some.inj h
    exact ⟨rfl, .nil rfl⟩
  · split at h
    · rename_i precision size hprecision hsize
      obtain rfl := Option.some.inj h
      have hprecision := Json.faithful_nat.required ht hprecision
      have hsize := Json.carries_optional_nat ht hsize
      refine ⟨rfl, (hprecision.cons hsize).imp fun u hu => ?_⟩
      obtain ⟨h₁, h₂⟩ := hu
      simp only [ofFields?, h₁, h₂]
    · cases h
  · split at h
    · rename_i origin unit ranges horigin hunit hranges
      obtain rfl := Option.some.inj h
      have horigin := GeoPoint.faithful.required ht horigin
      have hunit := Json.faithful_text.optional ht hunit
      have hranges := hdoubles.required ht hranges
      refine ⟨rfl, (horigin.cons (hunit.cons hranges)).imp fun u hu => ?_⟩
      obtain ⟨h₁, h₂, h₃⟩ := hu
      simp only [ofFields?, h₁, h₂, h₃]
    · cases h
  · cases h

end Grouping

/-! ## Aggregations -/

namespace AggregationKind

/-- The field of a grouping and the grouping are read under its kind. -/
lemma ofFields?_grouping {t : Table Json} {f : String} {g : Grouping}
    (hkind : Json.required "type" (Json.tag? names true) t = some g.kindName)
    (hf : Json.required "field" Json.text? t = some f)
    (hg : Grouping.ofFields? g.kindName t = some g) : ofFields? t = some (onField f g) := by
  have hother : g.kindName ∉ ["filters", "named"] := by
    cases g <;> simp only [Grouping.kindName] <;> decide
  rw [ofFields?, hkind]
  split
  · simp_all
  · simp_all
  · simp_all
  · rename_i h
    obtain rfl := Option.some.inj h
    simp only [hf, hg]

/-- The kind of an aggregation is read again from the fields beside its key. -/
lemma carries {t : Table Json} (ht : WritableTable t) {k : AggregationKind}
    (h : ofFields? t = some k) : Carries k.entries fun u => ofFields? u = some k := by
  have htag : ∀ {kind : String}, kind ∈ names →
      Carries [("type", some (.str kind))] fun u =>
        Json.required "type" (Json.tag? names true) u = some kind := by
    intro kind hkind
    refine (Json.carries_text _ _).imp fun u hu => ?_
    rw [Json.required, hu, Option.bind_some, Json.tag?, if_pos (List.contains_iff_mem.2 hkind)]
  unfold ofFields? at h
  split at h
  · cases h
  · obtain ⟨fs, hfs, rfl⟩ := Option.map_eq_some_iff.1 h
    have hfs := (Query.faithful true).table.required ht hfs
    refine ((htag (by simp [names])).cons hfs).imp fun u hu => ?_
    obtain ⟨h₁, h₂⟩ := hu
    rw [ofFields?, h₁]
    exact congrArg (Option.map filters) h₂
  · obtain ⟨n, hn, rfl⟩ := Option.map_eq_some_iff.1 h
    have hn := Json.faithful_text.required ht hn
    refine ((htag (by simp [names])).cons hn).imp fun u hu => ?_
    obtain ⟨h₁, h₂⟩ := hu
    rw [ofFields?, h₁]
    exact congrArg (Option.map named) h₂
  · split at h
    · rename_i f g hf hg
      obtain rfl := Option.some.inj h
      have hf := Json.faithful_text.required ht hf
      obtain ⟨rfl, hg⟩ := Grouping.carries ht hg
      have hkind : g.kindName ∈ names := by cases g <;> simp [Grouping.kindName, names]
      refine ((htag hkind).cons (hf.cons hg)).imp fun u hu => ?_
      obtain ⟨h₁, h₂, h₃⟩ := hu
      exact ofFields?_grouping h₁ h₂ h₃
    · cases h

end AggregationKind

namespace Aggregation

/-- The entries of the record of an aggregation. -/
def entries (a : Aggregation) : List (String × Option Json) :=
  ("key", some (.str a.key)) :: ("aggs", Json.ofNonempty toJson a.aggs) ::
    ("extensions", Json.ofNonemptyTable id a.extensions) ::
    ("min_doc_count", a.minDocCount.map fun n => .int n) :: a.kind.entries

/-- An aggregation is written as the record of its entries. -/
lemma toJson_eq_record (a : Aggregation) : a.toJson = .record a.entries := by
  obtain ⟨key, kind, aggs, extensions, minDocCount⟩ := a
  rw [toJson, toJsonList_eq_map, entries, Json.ofNonempty]

/-- No two members of an aggregation have the same name. -/
lemma nodup_entries (a : Aggregation) : (a.entries.map Prod.fst).Nodup := by
  obtain ⟨key, kind, aggs, extensions, minDocCount⟩ := a
  cases kind with
  | onField f g => cases g <;> simp [entries, AggregationKind.entries, Grouping.entries]
  | filters _ | named _ => simp [entries, AggregationKind.entries]

/-- A list of aggregations is read one by one. -/
lemma ofJsonList?_eq_readAll (xs : List Json) : ofJsonList? xs = Json.readAll ofJson? xs := by
  induction xs with
  | nil => rfl
  | cons x rest ih =>
    rw [ofJsonList?, Json.readAll, ih]
    cases ofJson? x <;> cases Json.readAll ofJson? rest <;> rfl

/-- A list of aggregations is read like any list. -/
lemma list?_eq (x : Json) : list? x = Json.list? ofJson? x := by
  cases x with
  | arr items => rw [list?, ofJsonList?_eq_readAll, Json.list?]
  | _ => rfl

/-- The aggregations inside another one are a field with a default. -/
lemma inner?_eq_defaulted (members : Table Json) :
    inner? members = Json.defaulted "aggs" [] (Json.list? ofJson?) members := by
  induction members with
  | nil => rfl
  | cons e rest ih =>
    obtain ⟨k, x⟩ := e
    rw [inner?, ih, list?_eq, Json.defaulted, Json.defaulted, Table.find?]
    split <;> rfl

/-- An aggregation is written and read again if the aggregations inside it are. -/
lemma rewrites_of_inner {members : Table Json} (ht : WritableTable members)
    {a : Aggregation} {aggs : Option (List Aggregation)} (h : assemble? members aggs = some a)
    (haggs : ∀ as, aggs = some as → ∀ b ∈ as, Rewrites ofJson? toJson b) :
    Rewrites ofJson? toJson a := by
  unfold assemble? at h
  split at h
  · rename_i key kind as extensions count hkey hkind hextensions hcount
    obtain rfl := Option.some.inj h
    have hkey := Json.faithful_text.required ht hkey
    have has := Rewrites.nonempty (haggs as rfl) "aggs"
    have hextensions := Json.faithful_any.nonemptyTable ht hextensions
    have hcount := Json.carries_optional_nat ht hcount
    have hkind := AggregationKind.carries ht hkind
    have hfields := hkey.cons (has.cons (hextensions.cons (hcount.cons hkind)))
    have hreads : Carries (entries ⟨key, kind, as, extensions, count⟩) fun u =>
        ofJson? (.obj u) = some ⟨key, kind, as, extensions, count⟩ := by
      refine hfields.imp fun u hu => ?_
      obtain ⟨h₁, h₂, h₃, h₄, h₅⟩ := hu
      have h₃ : Json.defaulted "extensions" [] (Json.table? any?) u = some extensions := h₃
      show assemble? u (inner? u) = _
      simp only [inner?_eq_defaulted, assemble?, h₁, h₂, h₃, h₄, h₅]
    refine ⟨?_, ?_⟩
    · rw [toJson_eq_record]
      exact hreads.writable_record
    · rw [toJson_eq_record]
      exact hreads.members (nodup_entries _)
  · cases h

/-- The aggregation of a document with a text is written and read again, and so are the
aggregations of a list of them.

**Proof sketch.** Induction on the document. The aggregations inside another one are elements of a
list that is a member of its object, so that the law is carried along for such lists too. -/
theorem rewrites_of_writable {x : Json} (hx : x.Writable) :
    (∀ a, ofJson? x = some a → Rewrites ofJson? toJson a) ∧
      ∀ as, list? x = some as → ∀ a ∈ as, Rewrites ofJson? toJson a := by
  induction hx with
  | null | bool | int | double | str => exact ⟨nofun, nofun⟩
  | @arr items each ih =>
    refine ⟨nofun, fun as has a ha => ?_⟩
    rw [list?_eq] at has
    obtain ⟨x, hx, hxa⟩ := Json.exists_of_readAll has ha
    exact (ih x hx).1 a hxa
  | @obj members sorted each ih =>
    refine ⟨fun a h => ?_, nofun⟩
    refine rewrites_of_inner each (h : assemble? members (inner? members) = some a) ?_
    intro as has
    rw [inner?_eq_defaulted, Json.defaulted] at has
    split at has
    · obtain rfl := Option.some.inj has
      exact fun _ hb => absurd hb List.not_mem_nil
    · rename_i x hx
      exact (ih _ (Table.mem_of_find? hx)).2 as ((list?_eq x).trans has)

/-- **Aggregations** of documents are written and read again. -/
theorem faithful : Faithful ofJson? toJson where
  rewrites hx h := (rewrites_of_writable hx).1 _ h
  ne_null _ _ _ := by rw [toJson_eq_record]; nofun

end Aggregation

/-! ## Requests -/

/-- A field is written as it was read. -/
theorem Field.faithful : Faithful ofJson? toJson := by
  refine .ofFields (fun _ => rfl) (fun _ => rfl) (fun ht h => ?_) fun _ => by simp
  split at h
  · rename_i name expr label settings hname hexpr hlabel hsettings
    obtain rfl := Option.some.inj h
    have hname := Json.faithful_text.optional ht hname
    have hexpr := Json.faithful_text.optional ht hexpr
    have hlabel := Json.faithful_text.optional ht hlabel
    have hsettings := Json.faithful_any.nonemptyTable ht hsettings
    refine (hname.cons (hexpr.cons (hlabel.cons hsettings))).imp fun u hu => ?_
    obtain ⟨h₁, h₂, h₃, h₄⟩ := hu
    have h₄ : Json.defaulted "settings" [] (Json.table? Aggregation.any?) u = some settings := h₄
    rw [h₁, h₂, h₃, h₄]
  · cases h

/-- A direction is written as it was read. -/
theorem Direction.faithful : Faithful ofJson? fun d => .str d.name where
  rewrites {x d} _ _ := ⟨.str _, by cases d <;> rfl⟩
  ne_null _ _ _ := nofun

/-- A key of the sort is written as it was read. -/
theorem SortKey.faithful : Faithful ofJson? toJson := by
  refine .ofFields (fun _ => rfl) (fun _ => rfl) (fun ht h => ?_) fun _ => by simp
  split at h
  · rename_i f d hf hd
    obtain rfl := Option.some.inj h
    have hf := Json.faithful_text.required ht hf
    have hd := Direction.faithful.defaulted ⟨.str _, rfl⟩ ht hd
    refine (hf.cons hd).imp fun u hu => ?_
    obtain ⟨h₁, h₂⟩ := hu
    rw [h₁, h₂]
  · cases h

/-- **Requests** of documents are written and read again. -/
theorem SearchRequest.faithful : Faithful ofJson? toJson := by
  refine .ofFields (fun _ => rfl) (fun _ => rfl) (fun ht h => ?_) fun _ => by simp
  unfold ofFields? at h
  split at h
  · rename_i offset limit query fields fieldSet sorts aggs params hoffset hlimit hquery hfields
      hfieldSet hsorts haggs hparams
    obtain rfl := Option.some.inj h
    have hoffset := Json.faithful_nat.defaulted (Json.rewrites_nat (by decide)) ht hoffset
    have hlimit := Json.faithful_nat.defaulted (Json.rewrites_nat (by decide)) ht hlimit
    have hquery := (Query.faithful false).optional ht hquery
    have hfields := Field.faithful.nonempty ht hfields
    have hfieldSet := Json.faithful_text.optional ht hfieldSet
    have hsorts := SortKey.faithful.nonempty ht hsorts
    have haggs := Aggregation.faithful.nonempty ht haggs
    have hparams := Json.faithful_any.nonemptyTable ht hparams
    refine (hoffset.cons (hlimit.cons (hquery.cons (hfields.cons (hfieldSet.cons (hsorts.cons
      (haggs.cons hparams))))))).imp fun u hu => ?_
    obtain ⟨h₁, h₂, h₃, h₄, h₅, h₆, h₇, h₈⟩ := hu
    have h₈ : Json.defaulted "params" [] (Json.table? Aggregation.any?) u = some params := h₈
    rw [ofFields?, h₁, h₂, h₃, h₄, h₅, h₆, h₇, h₈]
  · cases h

/-! ## All of them -/

/-- **Decoding undoes encoding.** The query, the aggregation or the request that a document decodes
as is encoded as a document with a text, which decodes as the same query, aggregation or request;
and the value of a document is the value of its own document. -/
theorem Json.decode_encode {j : Json} (hj : j.Writable) :
    (∀ nested q, Query.ofJson? nested j = some q →
        q.toJson.Writable ∧ Query.ofJson? nested q.toJson = some q) ∧
      (∀ a, Aggregation.ofJson? j = some a →
        a.toJson.Writable ∧ Aggregation.ofJson? a.toJson = some a) ∧
      (∀ r, SearchRequest.ofJson? j = some r →
        r.toJson.Writable ∧ SearchRequest.ofJson? r.toJson = some r) ∧
      (Value.ofJson j).toJson.Writable ∧
        Value.ofJson (Value.ofJson j).toJson = Value.ofJson j := by
  refine ⟨fun nested q hq => ?_, fun a ha => ?_, fun r hr => ?_, ?_⟩
  · have hq := (Query.faithful nested).rewrites hj hq
    exact ⟨hq.writable, hq.reads⟩
  · have ha := Aggregation.faithful.rewrites hj ha
    exact ⟨ha.writable, ha.reads⟩
  · have hr := SearchRequest.faithful.rewrites hj hr
    exact ⟨hr.writable, hr.reads⟩
  · have hv := Value.faithful.rewrites hj rfl
    exact ⟨hv.writable, Option.some.inj hv.reads⟩

/-- A request for the sizes of what is open and of what is large, with a setting for the store. -/
def Json.sizesRequest : Json :=
  .obj [("aggs", .arr [.obj
      [("aggs", .arr [.obj [("field", .str "size"), ("interval", .int 2), ("key", .str "sizes"),
        ("type", .str "histogram")]]),
      ("extensions", .obj [("lazy", .bool true)]),
      ("filters", .obj
        [("large", .obj [("field", .str "size"), ("gte", .int 9), ("lt", .null),
          ("type", .str "range")]),
        ("open", .obj [("of", .arr [.arr [.str "term", .str "done", .bool true]]),
          ("type", .str "not")])]),
      ("key", .str "groups"), ("type", .str "filters")]]),
    ("limit", .int 5)]

/-- A request with a query, an aggregation and a page is written as it was read. -/
theorem Json.decode_encode_sizesRequest : sizesRequest.Writable ∧
    ∃ r, SearchRequest.ofJson? sizesRequest = some r ∧
      SearchRequest.ofJson? r.toJson = some r := by
  have hwritable : sizesRequest.Writable := by
    simp only [sizesRequest, writable_obj_iff, writable_arr_iff, writable_int_iff, Writable.null,
      Writable.bool, Writable.str, List.forall_mem_cons, List.not_mem_nil, false_imp_iff,
      implies_true, and_true, true_and]
    decide
  obtain ⟨r, hr⟩ : ∃ r, SearchRequest.ofJson? sizesRequest = some r := ⟨_, rfl⟩
  exact ⟨hwritable, r, hr, ((decode_encode hwritable).2.2.1 r hr).2⟩

end Sift
