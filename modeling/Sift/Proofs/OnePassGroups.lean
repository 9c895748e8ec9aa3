import Mathlib.Data.List.Basic
import Mathlib.Tactic.Lemma
import Sift.Aggregation.Group

/-!
# Grouping in one pass

Records can be grouped while they are read. Each image is looked up in an index, which has the place
of the group for it. The record is put at the end of that group, or a new group is opened behind all
others. What a record has mentioned before is passed over, so that it enters no group twice. This
takes one pass over the records, while `Sift.Group.gather` looks through all of them for each group.

## Main definitions

* `Sift.Group.Slots`: groups and an index of them.
* `Sift.Group.Slots.enter`, `Sift.Group.Slots.read`: one image, and one record.
* `Sift.Group.gatherOnce`: one pass over all records.

## Main results

* `Sift.Group.Slots.Stands.enter`: what one image does.
* `Sift.Group.gatherOnce_eq_gather`: both ways lead to the same groups.
-/

set_option autoImplicit false

namespace Sift.Group

variable {R α κ : Type} [DecidableEq κ] {image : α → κ}

/-- Groups in the order in which they were opened, and the place of the group for each image. -/
structure Slots (R α κ : Type) where
  /-- What was first mentioned with the image, and the records so far. -/
  groups : List (α × List R) := []
  /-- The places of groups by image. -/
  index : List (κ × Nat) := []

namespace Slots

/-- Puts a record into the group for what it mentions, and opens the group if there is none. -/
def enter (image : α → κ) (r : R) (s : Slots R α κ) (x : α) : Slots R α κ :=
  match s.index.lookup (image x) with
  | some slot => { s with groups := s.groups.modify slot fun g => (g.1, g.2 ++ [r]) }
  | none => { groups := s.groups ++ [(x, [r])], index := (image x, s.groups.length) :: s.index }

/-- Puts a record into the group for what it mentions, unless it has mentioned the same before. The
images that it has mentioned come with the groups. -/
def mention (image : α → κ) (r : R) (state : List κ × Slots R α κ) (x : α) :
    List κ × Slots R α κ :=
  if image x ∈ state.1 then state else (image x :: state.1, state.2.enter image r x)

/-- Puts a record into the groups for all that it mentions. -/
def read (image : α → κ) (s : Slots R α κ) (entry : R × List α) : Slots R α κ :=
  (entry.2.foldl (mention image entry.1) ([], s)).2

end Slots

/-- Records grouped by what they mention, in one pass. -/
def gatherOnce (image : α → κ) (entries : List (R × List α)) : List (α × List R) :=
  (entries.foldl (Slots.read image) {}).groups

/-! ## One more image -/

omit [DecidableEq κ] in
/-- An image occurs in a longer list if it did before, or if it is that of the last element. -/
lemma exists_mem_concat {xs : List α} {x : α} {k : κ} :
    (∃ y ∈ xs ++ [x], image y = k) ↔ (∃ y ∈ xs, image y = k) ∨ image x = k := by
  simp only [List.mem_append, List.mem_singleton, or_and_right, exists_or, exists_eq_left]

/-- Changing what stands at a place is changing everything of which there is only one. -/
lemma modify_eq_map {β : Type} {p : β → Prop} [DecidablePred p] {f : β → β} {xs : List β}
    {place : Nat} (hplace : ∀ i y, xs[i]? = some y → (p y ↔ i = place)) :
    xs.modify place f = xs.map fun y => if p y then f y else y := by
  refine List.ext_getElem? fun i => ?_
  rw [List.getElem?_modify, List.getElem?_map]
  cases hy : xs[i]? with
  | none => rfl
  | some y =>
    simp only [Option.map_some, hplace i y hy, eq_comm (a := place)]
    split <;> rfl

/-- The last element is kept if its image is new. -/
lemma distinctBy_concat (image : α → κ) (xs : List α) (x : α) :
    distinctBy image (xs ++ [x]) =
      if ∃ y ∈ xs, image y = image x then distinctBy image xs else distinctBy image xs ++ [x] := by
  induction xs with
  | nil => simp [distinctBy]
  | cons y rest ih =>
    rw [List.cons_append, distinctBy, ih, distinctBy]
    by_cases hrest : ∃ z ∈ rest, image z = image x
    · have hall : ∃ z ∈ y :: rest, image z = image x := by
        obtain ⟨z, hz, hzx⟩ := hrest
        exact ⟨z, List.mem_cons_of_mem y hz, hzx⟩
      rw [if_pos hrest, if_pos hall]
    · rw [if_neg hrest, List.filter_append]
      by_cases hy : image y = image x
      · rw [if_pos ⟨y, List.mem_cons_self, hy⟩, List.filter_singleton]
        simp [hy]
      · have hall : ¬ ∃ z ∈ y :: rest, image z = image x := by
          rintro ⟨z, hz, hzx⟩
          rcases List.mem_cons.1 hz with rfl | hz
          · exact hy hzx
          · exact hrest ⟨z, hz, hzx⟩
        rw [if_neg hall, List.filter_singleton, List.cons_append]
        simp [Ne.symm hy]

/-- Groups by what was mentioned before the last record, and by what it has mentioned. -/
lemma gather_concat (image : α → κ) (done : List (R × List α)) (r : R) (seen : List α) :
    gather image (done ++ [(r, seen)]) =
      (distinctBy image (done.flatMap Prod.snd ++ seen)).map fun y =>
        (y, (done.filter fun e => e.2.any fun z => image z = image y).map Prod.fst ++
          if ∃ z ∈ seen, image z = image y then [r] else []) := by
  unfold gather
  rw [List.flatMap_append, List.flatMap_singleton]
  refine List.map_congr_left fun y _ => ?_
  rw [List.filter_append, List.map_append, List.filter_singleton, Bool.cond_eq_ite]
  simp only [List.any_eq_true, decide_eq_true_eq]
  split <;> rfl

/-- A record that mentions nothing changes no group. -/
lemma gather_concat_nil (image : α → κ) (done : List (R × List α)) (r : R) :
    gather image (done ++ [(r, [])]) = gather image done := by
  rw [gather_concat, List.append_nil]
  refine List.map_congr_left fun y _ => ?_
  rw [if_neg (by simp), List.append_nil]

namespace Slots

/-- Groups stand as they should after some entries, and the index has the places of them all. -/
structure Stands (image : α → κ) (entries : List (R × List α)) (s : Slots R α κ) : Prop where
  /-- The groups of the entries. -/
  groups : s.groups = gather image entries
  /-- Looking up an image finds the place of its group. -/
  index : ∀ k slot, s.index.lookup k = some slot ↔ ∃ g, s.groups[slot]? = some g ∧ image g.1 = k

variable {done entries : List (R × List α)} {r : R} {seen : List α} {x : α} {s : Slots R α κ}

/-- An image that the record has mentioned changes nothing. -/
lemma Stands.skip (h : s.Stands image (done ++ [(r, seen)]))
    (hx : ∃ y ∈ seen, image y = image x) : s.Stands image (done ++ [(r, seen ++ [x])]) := by
  refine ⟨h.groups.trans ?_, h.index⟩
  have hmentioned : ∃ y ∈ done.flatMap Prod.snd ++ seen, image y = image x := by
    obtain ⟨y, hy, hyx⟩ := hx
    exact ⟨y, List.mem_append_right _ hy, hyx⟩
  rw [gather_concat, gather_concat, ← List.append_assoc, distinctBy_concat, if_pos hmentioned]
  refine List.map_congr_left fun z _ => ?_
  have hiff : (∃ w ∈ seen ++ [x], image w = image z) ↔ ∃ w ∈ seen, image w = image z := by
    rw [exists_mem_concat]
    refine or_iff_left_of_imp fun hxz => ?_
    obtain ⟨y, hy, hyx⟩ := hx
    exact ⟨y, hy, hyx.trans hxz⟩
  simp only [hiff]

/-- Only images that no entry mentions are not in the index. -/
lemma Stands.lookup_eq_none_iff (h : s.Stands image entries) {k : κ} :
    s.index.lookup k = none ↔ ∀ y ∈ entries.flatMap Prod.snd, image y ≠ k := by
  constructor
  · intro hnone y hy hyk
    obtain ⟨z, hz, hzy⟩ : ∃ z ∈ distinctBy image (entries.flatMap Prod.snd), image z = image y :=
      image_mem_distinctBy hy
    obtain ⟨g, hg, rfl⟩ : ∃ g ∈ s.groups, g.1 = z := by
      rw [h.groups]
      exact ⟨_, List.mem_map_of_mem hz, rfl⟩
    obtain ⟨slot, hslot⟩ := List.mem_iff_getElem?.1 hg
    have hsome := (h.index k slot).2 ⟨g, hslot, hzy.trans hyk⟩
    rw [hnone] at hsome
    cases hsome
  · intro hnone
    cases hlookup : s.index.lookup k with
    | none => rfl
    | some slot =>
      obtain ⟨g, hslot, hgk⟩ := (h.index k slot).1 hlookup
      have hg := List.mem_of_getElem? hslot
      rw [h.groups] at hg
      obtain ⟨y, hy, rfl⟩ := List.mem_map.1 hg
      exact absurd hgk (hnone y (mem_distinctBy hy))

/-- A record that enters a group. -/
lemma Stands.enter_some (h : s.Stands image (done ++ [(r, seen)]))
    (hx : ∀ y ∈ seen, image y ≠ image x) {slot : Nat}
    (hslot : s.index.lookup (image x) = some slot) :
    Stands image (done ++ [(r, seen ++ [x])])
      { s with groups := s.groups.modify slot fun g => (g.1, g.2 ++ [r]) } := by
  constructor
  case groups =>
    have hmentioned : ∃ y ∈ done.flatMap Prod.snd ++ seen, image y = image x := by
      by_contra hnone
      have hlookup := h.lookup_eq_none_iff.2 fun y hy hyx => hnone ⟨y, by simpa using hy, hyx⟩
      rw [hslot] at hlookup
      cases hlookup
    have hplace : ∀ i g, s.groups[i]? = some g → (image g.1 = image x ↔ i = slot) := by
      intro i g hg
      constructor
      · intro hgx
        have hi := (h.index (image x) i).2 ⟨g, hg, hgx⟩
        exact Option.some.inj (hi.symm.trans hslot)
      · rintro rfl
        obtain ⟨g', hg', hgx⟩ := (h.index _ _).1 hslot
        exact Option.some.inj (hg.symm.trans hg') ▸ hgx
    dsimp only
    rw [modify_eq_map hplace, h.groups, gather_concat, gather_concat, ← List.append_assoc,
      distinctBy_concat, if_pos hmentioned, List.map_map]
    refine List.map_congr_left fun y _ => ?_
    simp only [Function.comp_apply, exists_mem_concat]
    by_cases hyx : image y = image x
    · have hnew : ¬ ∃ z ∈ seen, image z = image y := fun ⟨z, hz, hzy⟩ => hx z hz (hzy.trans hyx)
      rw [if_pos hyx, if_neg hnew, if_pos (.inr hyx.symm), List.append_nil]
    · simp only [hyx, Ne.symm hyx, if_false, or_false]
  case index =>
    intro k slot'
    rw [h.index, List.getElem?_modify]
    cases s.groups[slot']? with
    | none => simp
    | some g => split <;> simp

/-- A record that opens a group. -/
lemma Stands.enter_none (h : s.Stands image (done ++ [(r, seen)]))
    (hnone : s.index.lookup (image x) = none) :
    Stands image (done ++ [(r, seen ++ [x])])
      { groups := s.groups ++ [(x, [r])], index := (image x, s.groups.length) :: s.index } := by
  have hother : ∀ y ∈ done.flatMap Prod.snd ++ seen, image y ≠ image x := fun y hy =>
    h.lookup_eq_none_iff.1 hnone y (by simpa using hy)
  constructor
  case groups =>
    have hfirst : (done.filter fun e => e.2.any fun z => image z = image x) = [] := by
      refine List.filter_eq_nil_iff.2 fun e he hany => ?_
      obtain ⟨z, hz, hzx⟩ := List.any_eq_true.1 hany
      have hz : z ∈ done.flatMap Prod.snd := List.mem_flatMap.2 ⟨e, he, hz⟩
      exact hother z (List.mem_append_left _ hz) (of_decide_eq_true hzx)
    dsimp only
    rw [h.groups, gather_concat, gather_concat, ← List.append_assoc, distinctBy_concat,
      if_neg fun ⟨y, hy, hyx⟩ => hother y hy hyx, List.map_append, List.map_singleton]
    simp only [exists_mem_concat, or_true, if_true, hfirst, List.map_nil, List.nil_append]
    congr 1
    refine List.map_congr_left fun y hy => ?_
    simp only [Ne.symm (hother y (mem_distinctBy hy)), or_false]
  case index =>
    intro k slot
    have hlast : ∀ g, (s.groups ++ [(x, [r])])[slot]? = some g ↔
        s.groups[slot]? = some g ∨ slot = s.groups.length ∧ g = (x, [r]) := by
      intro g
      rw [List.getElem?_append]
      split
      · rename_i hlt
        exact (or_iff_left fun heq => Nat.ne_of_lt hlt heq.1).symm
      · rename_i hge
        rw [List.getElem?_eq_none (Nat.not_lt.1 hge), List.getElem?_singleton]
        split
        · rename_i hzero
          have hslot : slot = s.groups.length := by omega
          simp [hslot, eq_comm]
        · rename_i hpos
          have hslot : slot ≠ s.groups.length := by omega
          simp [hslot]
    rw [List.lookup_cons]
    simp only [hlast]
    by_cases hk : k = image x
    · subst hk
      simp only [beq_self_eq_true, Option.some.injEq]
      constructor
      · rintro rfl
        exact ⟨_, .inr ⟨rfl, rfl⟩, rfl⟩
      · rintro ⟨g, hg | ⟨rfl, -⟩, hgx⟩
        · have hsome := (h.index _ slot).2 ⟨g, hg, hgx⟩
          rw [hnone] at hsome
          cases hsome
        · rfl
    · simp only [beq_eq_false_iff_ne.2 hk, h.index]
      refine exists_congr fun g => and_congr_left fun hgk => (or_iff_left ?_).symm
      rintro ⟨-, rfl⟩
      exact hk hgk.symm

/-- **One image.** If the record has not mentioned the image before, it enters the group for it. -/
theorem Stands.enter (h : s.Stands image (done ++ [(r, seen)]))
    (hx : ∀ y ∈ seen, image y ≠ image x) :
    (s.enter image r x).Stands image (done ++ [(r, seen ++ [x])]) := by
  rw [Slots.enter]
  cases hslot : s.index.lookup (image x) with
  | none => exact h.enter_none hslot
  | some slot => exact h.enter_some hx hslot

/-- **One record.** What it has mentioned so far keeps standing in the groups. -/
theorem Stands.read (h : s.Stands image done) (entry : R × List α) :
    (s.read image entry).Stands image (done ++ [entry]) := by
  obtain ⟨r, mentioned⟩ := entry
  have hrun : ∀ (rest seen : List α) (keys : List κ) (s : Slots R α κ),
      (∀ k, k ∈ keys ↔ ∃ y ∈ seen, image y = k) → s.Stands image (done ++ [(r, seen)]) →
      (rest.foldl (mention image r) (keys, s)).2.Stands image (done ++ [(r, seen ++ rest)]) := by
    intro rest
    induction rest with
    | nil => exact fun seen _ _ _ h => by rwa [List.append_nil]
    | cons x rest ih =>
      intro seen keys s hkeys h
      rw [List.foldl_cons, List.append_cons seen, mention]
      dsimp only
      split
      · rename_i hx
        have hseen := (hkeys _).1 hx
        refine ih (seen ++ [x]) keys s (fun k => ?_) (h.skip hseen)
        rw [exists_mem_concat, hkeys]
        exact (or_iff_left_of_imp fun hk => hk ▸ hseen).symm
      · rename_i hx
        refine ih (seen ++ [x]) (image x :: keys) _ (fun k => ?_) (h.enter fun y hy hyx => ?_)
        · rw [exists_mem_concat, ← hkeys, List.mem_cons, or_comm, eq_comm]
        · exact hx ((hkeys _).2 ⟨y, hy, hyx⟩)
  refine hrun mentioned [] [] s (by simp) ⟨?_, h.index⟩
  rw [gather_concat_nil, h.groups]

end Slots

/-- **Grouping in one pass** leads to the groups that are found by looking for each image.

**Proof sketch.** While a record is read, the groups are those of the records before it and of what
it has mentioned so far, and the index has their places. What it has mentioned before changes none
of this, and by `Slots.Stands.enter` a new image changes both together. -/
theorem gatherOnce_eq_gather (image : α → κ) (entries : List (R × List α)) :
    gatherOnce image entries = gather image entries := by
  have hrun : ∀ (rest done : List (R × List α)) (s : Slots R α κ), s.Stands image done →
      (rest.foldl (Slots.read image) s).Stands image (done ++ rest) := by
    intro rest
    induction rest with
    | nil => exact fun done s h => by rwa [List.append_nil]
    | cons entry rest ih =>
      intro done s h
      rw [List.foldl_cons, List.append_cons]
      exact ih (done ++ [entry]) (s.read image entry) (h.read entry)
  exact (hrun entries [] {} ⟨rfl, fun k slot => by simp⟩).groups

end Sift.Group
