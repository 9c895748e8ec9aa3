import Mathlib.Data.List.Basic
import Sift.Proofs.ExpressibleGroups
import Sift.Proofs.PathTexts

/-!
# Paths through lists

A path of keys that meets a list goes on in every element. What it finds is what it finds in the
elements, one after the other: an element without the part adds nothing, and one that holds a list
adds its elements. It makes no difference that inner lists are joined at every key and not at the
end only.

A path that cannot be followed in some element cannot be followed at all, and then there are no
values, whatever the other elements hold.

## Main definitions

* `Sift.Json.reach?`: the part of a document that keys lead to.

## Main results

* `Sift.Json.reach?_arr`: keys in a list.
* `Sift.Evaluator.extract_through_list`: the values at a path through a list.
* `Sift.Evaluator.scalar_hides_others`: an element in which the path cannot be followed.
-/

set_option autoImplicit false

namespace Sift

namespace Json

/-! ## Following keys -/

/-- The part of a document that keys lead to, unless they cannot be followed. -/
def reach? (keys : List String) (x : Json) : Option Json :=
  (follow "" x (keys.map .key)).toOption

variable {key : String} {keys : List String}

/-- Except for messages the path as a whole does not matter. -/
lemma stepKey_toOption (path path' : String) (x : Json) :
    (stepKey key path x).toOption = (stepKey key path' x).toOption := by
  induction x using Json.induction with
  | null | bool _ | int _ | double _ | str _ | obj _ _ => rfl
  | arr items ih =>
    have hitems : (stepKeyItems key path items).toOption =
        (stepKeyItems key path' items).toOption := by
      induction items with
      | nil => rfl
      | cons x rest ihRest =>
        obtain ⟨hx, hrest⟩ := List.forall_mem_cons.1 ih
        specialize ihRest hrest
        rw [stepKeyItems, stepKeyItems]
        cases h : stepKey key path x <;> cases h' : stepKey key path' x <;>
          rw [h, h'] at hx <;> cases hx
        · rfl
        · cases hs : stepKeyItems key path rest <;> cases hs' : stepKeyItems key path' rest <;>
            rw [hs, hs'] at ihRest <;> cases ihRest <;> rfl
    rw [stepKey, stepKey]
    cases h : stepKeyItems key path items <;> cases h' : stepKeyItems key path' items <;>
      rw [h, h'] at hitems <;> cases hitems <;> rfl

/-- A path whose first step fails cannot be followed. -/
lemma follow_cons_error {path : String} {x : Json} {s : Segment} {e : PathError}
    (h : step path x s = .error e) (rest : List Segment) :
    follow path x (s :: rest) = .error e := by
  rw [follow, h]

/-- A path is followed from where its first step leads. -/
lemma follow_cons_ok {path : String} {x y : Json} {s : Segment} (h : step path x s = .ok y)
    (rest : List Segment) : follow path x (s :: rest) = follow path y rest := by
  rw [follow, h]

/-- Following keys is following each key on what the ones before it lead to. -/
lemma reach?_cons (key : String) (keys : List String) (x : Json) :
    reach? (key :: keys) x = (reach? [key] x).bind (reach? keys) := by
  unfold reach?
  rw [List.map_cons, List.map_cons]
  cases h : step "" x (.key key) with
  | error e => rw [follow_cons_error h, follow_cons_error h]; rfl
  | ok y => rw [follow_cons_ok h, follow_cons_ok h]; rfl

/-- A single key is one step. -/
lemma reach?_singleton (key : String) (x : Json) :
    reach? [key] x = (stepKey key "" x).toOption := by
  show (follow "" x [.key key]).toOption = (step "" x (.key key)).toOption
  cases h : step "" x (.key key) with
  | error e => rw [follow_cons_error h]
  | ok y => rw [follow_cons_ok h]; rfl

/-- Keys are followed in the same way whatever the path as a whole is. -/
lemma follow_toOption (path : String) (keys : List String) (x : Json) :
    (follow path x (keys.map .key)).toOption = reach? keys x := by
  induction keys generalizing x with
  | nil => rfl
  | cons key keys ih =>
    have hstep : (step path x (.key key)).toOption = reach? [key] x := by
      rw [reach?_singleton]
      exact stepKey_toOption path "" x
    rw [reach?_cons, List.map_cons, ← hstep]
    cases h : step path x (.key key) with
    | error e => rw [follow_cons_error h]; rfl
    | ok y => rw [follow_cons_ok h]; exact ih y

/-- Keys lead nowhere from null. -/
@[simp] lemma reach?_null (keys : List String) : reach? keys null = some null := by
  induction keys with
  | nil => rfl
  | cons key keys ih =>
    rw [reach?_cons, reach?_singleton]
    exact ih

/-- A key in a list joins what it finds in the elements. -/
lemma reach?_singleton_arr (key : String) (items : List Json) :
    reach? [key] (arr items) =
      (items.mapM (reach? [key])).map fun ys => arr (ys.flatMap spread) := by
  have hitems : (stepKeyItems key "" items).toOption =
      (items.mapM (reach? [key])).map fun ys => ys.flatMap spread := by
    induction items with
    | nil => rfl
    | cons x rest ih =>
      rw [stepKeyItems, List.mapM_cons, reach?_singleton]
      cases stepKey key "" x with
      | error e => rfl
      | ok y =>
        cases hrest : stepKeyItems key "" rest <;> cases hys : rest.mapM (reach? [key]) <;>
          rw [hrest, hys] at ih <;> cases ih <;> rfl
  rw [reach?_singleton, stepKey]
  cases hkeys : stepKeyItems key "" items <;> cases hys : items.mapM (reach? [key]) <;>
    rw [hkeys, hys] at hitems <;> cases hitems <;> rfl

/-! ## Keys in lists -/

/-- Two passes one after the other are one pass in which both steps are made for each element. -/
lemma mapM_bind_mapM {α β γ : Type} (f : α → Option β) (g : β → Option γ) (xs : List α) :
    ((xs.mapM f).bind fun ys => ys.mapM g) = xs.mapM fun x => (f x).bind g := by
  induction xs with
  | nil => rfl
  | cons x rest ih =>
    rw [List.mapM_cons, List.mapM_cons, ← ih]
    cases f x with
    | none => rfl
    | some y =>
      cases hrest : rest.mapM f with
      | none => cases h : g y <;> simp [h]
      | some ys => simp [List.mapM_cons]

/-- A pass succeeds if each step does. -/
lemma isSome_mapM {α β : Type} (f : α → Option β) (xs : List α) :
    (xs.mapM f).isSome = xs.all fun x => (f x).isSome := by
  induction xs with
  | nil => rfl
  | cons x rest ih =>
    rw [List.mapM_cons, List.all_cons, ← ih]
    cases f x with
    | none => rfl
    | some y => cases rest.mapM f <;> rfl

/-- What the results of a pass add is what the result of each step adds. -/
lemma flatMap_of_mapM {α β γ : Type} {f : α → Option β} {xs : List α} {ys : List β}
    (g : β → List γ) (h : xs.mapM f = some ys) :
    ys.flatMap g = xs.flatMap fun x => ((f x).map g).getD [] := by
  induction xs generalizing ys with
  | nil =>
    obtain rfl := Option.some.inj h
    rfl
  | cons x rest ih =>
    rw [List.mapM_cons] at h
    obtain ⟨y, hy, h⟩ := Option.bind_eq_some_iff.1 h
    obtain ⟨zs, hzs, h⟩ := Option.bind_eq_some_iff.1 h
    obtain rfl := Option.some.inj h
    rw [List.flatMap_cons, List.flatMap_cons, ih hzs, hy]
    rfl

/-- The law of keys in lists: what they find is what they find in the elements. -/
def JoinsLists (keys : List String) : Prop :=
  ∀ items, reach? keys (arr items) =
    (items.mapM (reach? keys)).map fun ys => arr (ys.flatMap spread)

/-- What keys find in what a document adds to a list is what they find in the document adds. -/
lemma JoinsLists.mapM_spread (h : JoinsLists keys) (y : Json) :
    (y.spread.mapM (reach? keys)).map (List.flatMap spread) = (reach? keys y).map spread := by
  have hself : ∀ y, ([y].mapM (reach? keys)).map (List.flatMap spread) =
      (reach? keys y).map spread := by
    intro y
    rw [List.mapM_cons]
    cases reach? keys y with
    | none => rfl
    | some z => exact congrArg some (List.append_nil z.spread)
  cases y with
  | null => rw [reach?_null]; rfl
  | arr items => rw [h, Option.map_map]; rfl
  | bool b => exact hself (bool b)
  | int n => exact hself (int n)
  | double x => exact hself (double x)
  | str s => exact hself (str s)
  | obj members => exact hself (obj members)

/-- It makes no difference whether lists are joined before keys are followed or afterwards. -/
lemma JoinsLists.mapM_flatMap (h : JoinsLists keys) (ys : List Json) :
    ((ys.flatMap spread).mapM (reach? keys)).map (List.flatMap spread) =
      (ys.mapM (reach? keys)).map (List.flatMap spread) := by
  induction ys with
  | nil => rfl
  | cons y rest ih =>
    have hy := h.mapM_spread y
    rw [List.flatMap_cons, List.mapM_append, List.mapM_cons]
    cases hone : reach? keys y with
    | none =>
      rw [hone] at hy
      rw [Option.map_eq_none_iff.1 hy]
      rfl
    | some z =>
      rw [hone] at hy
      obtain ⟨zs, hzs, hz⟩ := Option.map_eq_some_iff.1 hy
      rw [hzs]
      cases hrest : rest.mapM (reach? keys) with
      | none =>
        rw [hrest] at ih
        rw [Option.map_eq_none_iff.1 ih]
        rfl
      | some vs =>
        rw [hrest] at ih
        obtain ⟨us, hus, hvs⟩ := Option.map_eq_some_iff.1 ih
        rw [hus]
        show some ((zs ++ us).flatMap spread) = some ((z :: vs).flatMap spread)
        rw [List.flatMap_append, hz, hvs, List.flatMap_cons]

/-- **Keys in a list.** What keys find in a list is what they find in its elements: nothing of an
element without the part, the elements of a part that is a list, and any other part itself. They
cannot be followed if there is an element in which they cannot be followed. -/
theorem reach?_arr (hkeys : keys ≠ []) : JoinsLists keys := by
  induction keys with
  | nil => exact absurd rfl hkeys
  | cons key keys ih =>
    intro items
    cases keys with
    | nil => exact reach?_singleton_arr key items
    | cons key' keys =>
      have hlist := ih (List.cons_ne_nil _ _)
      have hsteps : ∀ ys : List Json, reach? (key' :: keys) (arr (ys.flatMap spread)) =
          (ys.mapM (reach? (key' :: keys))).map fun zs => arr (zs.flatMap spread) := by
        intro ys
        have hjoin := congrArg (Option.map arr) (hlist.mapM_flatMap ys)
        rw [Option.map_map, Option.map_map] at hjoin
        exact (hlist _).trans hjoin
      have hpasses := mapM_bind_mapM (reach? [key]) (reach? (key' :: keys)) items
      calc reach? (key :: key' :: keys) (arr items)
          = (reach? [key] (arr items)).bind (reach? (key' :: keys)) := reach?_cons _ _ _
        _ = (items.mapM (reach? [key])).bind fun ys =>
              reach? (key' :: keys) (arr (ys.flatMap spread)) := by
            rw [reach?_singleton_arr, Option.bind_map]
            rfl
        _ = ((items.mapM (reach? [key])).bind fun ys => ys.mapM (reach? (key' :: keys))).map
              fun zs => arr (zs.flatMap spread) := by
            rw [Option.map_bind]
            exact congrArg _ (funext hsteps)
        _ = (items.mapM (reach? (key :: key' :: keys))).map fun zs => arr (zs.flatMap spread) := by
            rw [hpasses, funext (reach?_cons key (key' :: keys))]

end Json

/-! ## Values at paths -/

namespace Evaluator

open Json

/-- The value of a document that can be written is null, or a list, exactly if the document is
one. -/
lemma extract_of_ok {R : Type} {E : Evaluator R} {r : R} {path : String} {y : Json}
    (hy : y.Writable) (h : E r path = .ok (Value.ofJson y)) :
    E.extract r path = y.spread.map Value.ofJson := by
  rw [extract, h]
  cases hy with
  | null | bool _ | str _ | obj _ _ => rfl
  | arr each => rw [Value.ofJson, Value.ofJsonItems_eq_map]; rfl
  | @int n lower upper =>
    show _ = [Value.ofJson (.int n)]
    rw [Value.ofJson, Value.ofInt]
    by_cases hlong : Int64.minValue.toInt ≤ n ∧ n ≤ Int64.maxValue.toInt
    · rw [if_pos hlong]
    · rw [if_neg hlong]
  | @double x finite =>
    show _ = [Value.ofJson (.double x)]
    rw [Value.ofJson, if_pos finite]

variable {x : Json} {q : String} {keys : List String}

/-- A path of keys is evaluated by following the keys. -/
lemma json_toOption (hq : Path.parse q = .ok (keys.map .key)) :
    (json x q).toOption = (reach? keys x).map Value.ofJson := by
  have hpath : (id x).atPath q = follow q x (keys.map .key) := by rw [atPath, hq]; rfl
  rw [← follow_toOption q, json, encoded, hpath]
  cases follow q x (keys.map .key) <;> rfl

/-- A path of keys can be evaluated if the keys can be followed. -/
lemma isOk_json (hq : Path.parse q = .ok (keys.map .key)) :
    (json x q).isOk = (reach? keys x).isSome := by
  have hjson := congrArg Option.isSome (json_toOption (x := x) hq)
  rw [Option.isSome_map] at hjson
  rw [← hjson]
  cases json x q <;> rfl

/-- The values at a path of keys: what the part that they lead to adds to a list. -/
lemma extract_json (hx : x.Writable) (hq : Path.parse q = .ok (keys.map .key)) :
    json.extract x q = (((reach? keys x).map spread).getD []).map Value.ofJson := by
  have hjson := json_toOption (x := x) hq
  cases hreach : reach? keys x with
  | none =>
    rw [hreach] at hjson
    cases h : json x q with
    | error e => rw [extract, h]; rfl
    | ok v => rw [h] at hjson; cases hjson
  | some y =>
    rw [hreach] at hjson
    have hy : y.Writable := by
      rw [← follow_toOption q] at hreach
      cases hfollow : follow q x (keys.map .key) with
      | error e => rw [hfollow] at hreach; cases hreach
      | ok z =>
        rw [hfollow] at hreach
        obtain rfl := Option.some.inj hreach
        exact hx.follow hfollow
    cases h : json x q with
    | error e => rw [h] at hjson; cases hjson
    | ok v =>
      rw [h] at hjson
      obtain rfl := Option.some.inj hjson
      exact extract_of_ok hy h

/-- **Values at a path through a list.** Behind a key that holds a list a path of keys can be
evaluated exactly if it can be in every element. It then yields the values that it yields in the
elements, one after the other, and none of an element without the part. If there is an element in
which the path cannot be followed there are no values at all.

**Proof sketch.** What keys find in a list is what they find in its elements (`reach?_arr`), where
what an element adds is just what is extracted from it (`extract_json`). -/
theorem extract_through_list {members : Table Json} {k q : String} {items : List Json}
    {keys : List String} (hrecord : (Json.obj members).Writable) (hk : Path.IsKey k)
    (hitems : Table.find? k members = some (.arr items))
    (hq : Path.parse q = .ok (keys.map .key)) :
    ((json (.obj members) (k ++ "." ++ q)).isOk = items.all fun x => (json x q).isOk) ∧
      json.extract (.obj members) (k ++ "." ++ q) =
        if items.all fun x => (json x q).isOk then items.flatMap fun x => json.extract x q
        else [] := by
  have hpath : Path.parse (k ++ "." ++ q) = .ok ((k :: keys).map .key) := Path.parse_key_dot hk hq
  have hkeys : keys ≠ [] := fun h =>
    Path.ne_nil_of_parse hq (congrArg (List.map Segment.key) h)
  have hlist : (Json.arr items).Writable :=
    WritableTable.find? (writable_obj_iff.1 hrecord).2 hitems
  have hfirst : reach? [k] (.obj members) = some (.arr items) := by
    rw [reach?_singleton, stepKey, hitems]
    rfl
  have hreached : reach? (k :: keys) (.obj members) =
      (items.mapM (reach? keys)).map fun ys => arr (ys.flatMap spread) := by
    rw [reach?_cons, hfirst, Option.bind_some, reach?_arr hkeys]
  have hall : (items.all fun x => (json x q).isOk) = (items.mapM (reach? keys)).isSome := by
    rw [isSome_mapM]
    exact congrArg items.all (funext fun x => isOk_json hq)
  rw [isOk_json hpath, extract_json hrecord hpath, hreached, hall]
  refine ⟨Option.isSome_map, ?_⟩
  cases hreach : items.mapM (reach? keys) with
  | none => rfl
  | some ys =>
    have heach : ∀ x ∈ items, json.extract x q =
        (((reach? keys x).map spread).getD []).map Value.ofJson :=
      fun x hx => extract_json (writable_arr_iff.1 hlist x hx) hq
    show (ys.flatMap spread).map Value.ofJson = items.flatMap fun x => json.extract x q
    rw [flatMap_of_mapM spread hreach, List.map_flatMap]
    exact List.flatMap_congr fun x hx => (heach x hx).symm

/-! ## An order with a stray line -/

/-- A line of an order. -/
def orderLine (sku : Int) : Json := .obj [("sku", .int sku)]

/-- An order of two lines and a gap between them. -/
def order : Table Json := [("items", .arr [orderLine 1, .null, orderLine 2])]

/-- An order of two lines and a third one that is a number. -/
def strayOrder : Table Json := [("items", .arr [orderLine 1, orderLine 2, .int 5])]

/-- A name alone is a path of one key. -/
lemma parse_sku : Path.parse "sku" = .ok ([("sku" : String)].map .key) := by cbv

/-- A name without dots and brackets is a key. -/
lemma isKey_items : Path.IsKey "items" := by decide

/-- The lines of the order are found on both sides of the gap. -/
theorem extract_lines_of_order : (Json.obj order).Writable ∧ Path.IsKey "items" ∧
    Table.find? "items" order = some (.arr [orderLine 1, .null, orderLine 2]) ∧
    Path.parse "sku" = .ok ([("sku" : String)].map .key) ∧
    json.extract (.obj order) ("items" ++ "." ++ "sku") = [.long 1, .long 2] := by
  have hmember : ∀ {k : String} {x : Json}, x.Writable → (Json.obj [(k, x)]).Writable := by
    refine fun hx => .obj (List.pairwise_singleton _ _) fun e he => ?_
    obtain rfl := List.mem_singleton.1 he
    exact hx
  have horder : (Json.obj order).Writable := by
    refine hmember (.arr fun x hx => ?_)
    simp only [List.mem_cons, List.not_mem_nil, or_false] at hx
    rcases hx with rfl | rfl | rfl
    · exact hmember (.int (by decide) (by decide))
    · exact .null
    · exact hmember (.int (by decide) (by decide))
  refine ⟨horder, isKey_items, rfl, parse_sku, ?_⟩
  rw [(extract_through_list horder isKey_items rfl parse_sku).2]
  unfold extract json encoded Json.atPath
  rw [parse_sku]
  rfl

/-- **The values of the other lines are gone.** Two lines of the order have the part, and a path
through all lines finds nothing. -/
theorem scalar_hides_others :
    json.extract (.obj strayOrder) "items.sku" = [] ∧
      [orderLine 1, orderLine 2, .int 5].flatMap (fun x => json.extract x "sku") =
        [.long 1, .long 2] := by
  have hitems : Path.parse "items.sku" = .ok [.key "items", .key "sku"] :=
    Path.parse_key_dot isKey_items parse_sku
  constructor
  · rw [extract, json, encoded, id, Json.atPath, hitems]
    rfl
  · unfold extract json encoded Json.atPath
    rw [parse_sku]
    rfl

end Evaluator

end Sift
