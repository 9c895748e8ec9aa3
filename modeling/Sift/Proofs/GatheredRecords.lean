import Sift.Proofs.IntervalStarts
import Sift.Proofs.Nesting
import Sift.Proofs.SortOrder

/-!
# What groups are gathered from

Records are gathered by what they mention, and what they mention is computed for all of them before
the first group is formed. Every group has something that one of the records mentions as its key,
and the records that mention it. Groups of one size can be put in order by their keys unless one of
the keys merges two others, as a double does with integers.

## Main definitions

* `Sift.Grouping.startsAt`: whether a value lies in the interval with a start.

## Main results

* `Sift.Grouping.consistent_byCount_iff`: groups that can be put in order by size.
* `Sift.Grouping.mem_dateIntervalGroups`: what the groups of intervals of time are.
-/

set_option autoImplicit false

namespace Sift.Grouping

variable {R : Type}

/-! ## Orders of groups -/

section Orders

variable {gs : List (Group R)}

/-- The order by size and key: a larger group precedes, or one of the same size whose key does not
exceed the other one. -/
lemma byCount_ne_gt_iff {a b : Group R} : byCount a b ≠ .gt ↔
    b.records.length < a.records.length ∨
      b.records.length = a.records.length ∧ a.key.sortOrder b.key ≠ .gt := by
  rw [byCount, Ne, Ordering.then_eq_gt, Nat.compare_eq_gt, Nat.compare_eq_eq]
  by_cases hkeys : a.key.sortOrder b.key = .gt
  · simp only [hkeys, and_true, ne_eq, not_true_eq_false, and_false, or_false]
    omega
  · simp only [hkeys, and_false, or_false, ne_eq, not_false_eq_true, and_true]
    omega

/-- **Groups in order by size.** The order by size and key orders groups exactly if among those of
one size no key merges two others. -/
theorem consistent_byCount_iff : Sorting.Consistent byCount gs ↔
    ∀ a ∈ gs, ∀ b ∈ gs, ∀ c ∈ gs, a.records.length = b.records.length →
      b.records.length = c.records.length → ¬ b.key.Merges a.key c.key := by
  constructor
  · intro h a ha b hb c hc hab hbc hmerges
    obtain ⟨heqab, heqbc, hgt⟩ := hmerges.sortOrder
    have hle := (h a ha b hb).2 c hc (byCount_ne_gt_iff.2 (.inr ⟨hab.symm, by simp [heqab]⟩))
      (byCount_ne_gt_iff.2 (.inr ⟨hbc.symm, by simp [heqbc]⟩))
    rcases byCount_ne_gt_iff.1 hle with hlt | ⟨-, hkeys⟩
    · omega
    · exact hkeys hgt
  · intro h a ha b hb
    refine ⟨?_, fun c hc hab hbc => ?_⟩
    · rw [byCount, byCount, Ordering.swap_then, Nat.compare_swap, ← Value.sortOrder_swap]
    · rw [byCount_ne_gt_iff] at hab hbc ⊢
      rcases hab with hab | ⟨hab, hkeys⟩
      · left
        omega
      · rcases hbc with hbc | ⟨hbc, hkeys'⟩
        · left
          omega
        · exact .inr ⟨hbc.trans hab,
            Value.sortOrder_trans (h a ha b hb c hc hab.symm hbc.symm) hkeys hkeys'⟩

end Orders

/-- Texts merge nothing. -/
lemma not_merges_str (s : String) (a c : Value) : ¬ (Value.str s).Merges a c :=
  fun h => nomatch h.1

/-! ## What records mention -/

section Mentioned

variable {rs : List R} {α : Type}

/-- What is computed for each record, if it can be computed for all of them. -/
lemma entries_of_mapM {ε : Type} {find : R → Except ε (List α)} {entries : List (R × List α)}
    (h : (rs.mapM fun r => (find r).map fun xs => (r, xs)) = .ok entries) :
    ∃ mentioned : R → List α, (∀ r ∈ rs, find r = .ok (mentioned r)) ∧
      entries = rs.map fun r => (r, mentioned r) := by
  let mentioned (r : R) : List α :=
    match find r with
    | .ok xs => xs
    | .error _ => []
  have hfind : ∀ {r xs}, find r = .ok xs → mentioned r = xs := by
    intro r xs hr
    simp only [mentioned, hr]
  refine ⟨mentioned, fun r hr => ?_, ?_⟩
  · obtain ⟨entry, -, hentry⟩ := Sequencing.exists_result h hr
    obtain ⟨xs, hxs, -⟩ := Sequencing.exists_ok_of_map hentry
    rw [hxs, hfind hxs]
  · have hentries := Sequencing.map_eq_of_mapM (g := id) (k := fun r => (r, mentioned r)) h
      fun r entry hentry => by
        obtain ⟨xs, hxs, rfl⟩ := Sequencing.exists_ok_of_map hentry
        rw [hfind hxs]
        rfl
    rwa [List.map_id] at hentries

/-- Records that are gathered mention something with the image that they have in common. -/
lemma mem_gather {κ : Type} [DecidableEq κ] {image : α → κ} {mentioned : R → List α}
    {e : α × List R} (h : e ∈ Group.gather image (rs.map fun r => (r, mentioned r))) :
    (∃ r ∈ rs, e.1 ∈ mentioned r) ∧
      e.2 = rs.filter fun r => (mentioned r).any fun y => image y = image e.1 := by
  obtain ⟨x, hx, rfl⟩ := List.mem_map.1 h
  obtain ⟨entry, hentry, hmem⟩ := List.mem_flatMap.1 (Group.mem_distinctBy hx)
  obtain ⟨r, hr, rfl⟩ := List.mem_map.1 hentry
  refine ⟨⟨r, hr, hmem⟩, ?_⟩
  dsimp only
  rw [List.filter_map, List.map_map]
  exact List.map_id _

/-- What a record mentions is gathered. -/
lemma exists_mem_gather {κ : Type} [DecidableEq κ] (image : α → κ) {mentioned : R → List α}
    {r : R} (hr : r ∈ rs) {x : α} (hx : x ∈ mentioned r) :
    ∃ e ∈ Group.gather image (rs.map fun r => (r, mentioned r)), image e.1 = image x := by
  have hmem : x ∈ (rs.map fun r => (r, mentioned r)).flatMap Prod.snd :=
    List.mem_flatMap.2 ⟨(r, mentioned r), List.mem_map_of_mem hr, hx⟩
  have hkept : ∃ y ∈ Group.distinctBy image ((rs.map fun r => (r, mentioned r)).flatMap Prod.snd),
      image y = image x := Group.image_mem_distinctBy hmem
  obtain ⟨y, hy, himage⟩ := hkept
  exact ⟨_, List.mem_map_of_mem hy, himage⟩

end Mentioned

/-! ## Intervals of time -/

variable {E : Evaluator R} {field : String} {i : Interval} {zone : Zone}
  {format : Option String} {substitute : Option Value} {rs : List R}

/-- Whether a record value lies in the interval that starts at some milliseconds. -/
def startsAt (i : Interval) (zone : Zone) (start : Int) (v : Value) : Bool :=
  match dateSlot? i zone v with
  | .ok (some n) => decide (n = start)
  | _ => false

/-- A value lies in the interval of its date. -/
lemma startsAt_iff {start : Int} {v : Value} :
    startsAt i zone start v = true ↔ dateSlot? i zone v = .ok (some start) := by
  rw [startsAt]
  split
  · rename_i n hn
    simp [hn]
  · rename_i hne
    exact iff_of_false nofun fun h => hne start h

/-- The starts of the intervals of values, if all of them can be computed. -/
lemma dateSlots_eq_ok_iff {vs : List Value} {starts : List Int} :
    dateSlots i zone vs = .ok starts ↔
      ∃ slots, vs.mapM (dateSlot? i zone) = .ok slots ∧ slots.filterMap id = starts := by
  rw [dateSlots]
  cases vs.mapM (dateSlot? i zone) <;> simp [Except.map]

/-- A record mentions the starts of the intervals in which its values lie. -/
lemma mem_of_dateSlots {vs : List Value} {starts : List Int}
    (h : dateSlots i zone vs = .ok starts) {start : Int} :
    start ∈ starts ↔ ∃ v ∈ vs, dateSlot? i zone v = .ok (some start) := by
  obtain ⟨slots, hslots, rfl⟩ := dateSlots_eq_ok_iff.1 h
  simp only [List.mem_filterMap, id_eq, exists_eq_right]
  constructor
  · exact Sequencing.exists_step hslots
  · rintro ⟨v, hv, hslot⟩
    obtain ⟨slot, hmem, hslot'⟩ := Sequencing.exists_result hslots hv
    rwa [← Except.ok.inj (hslot.symm.trans hslot')] at hmem

/-- The start of an interval is an instant. -/
lemma exists_ofMillis?_of_dateSlot? {v : Value} {start : Int}
    (h : dateSlot? i zone v = .ok (some start)) : ∃ t, Instant.ofMillis? start = some t := by
  unfold dateSlot? at h
  split at h
  · cases h
  · split at h
    · rename_i t _
      obtain ⟨s, hs, heq⟩ := Sequencing.exists_ok_of_map h
      obtain ⟨s, rfl, rfl⟩ := Option.map_eq_some_iff.1 heq
      exact ⟨s, (Interval.inMillis_of_bucketStart
        (DateError.settle_eq_some_iff.1 hs)).ofMillis?_millis⟩
    · cases h

/-- **Groups of intervals of time.** Each of them is formed for the start of an interval in which
some value of some record lies, from the records with a value in this interval. -/
theorem mem_dateIntervalGroups {gs : List (Group R)}
    (h : dateIntervalGroups E field i zone format substitute rs = .ok gs) {g : Group R}
    (hg : g ∈ gs) :
    ∃ start, (∃ r ∈ rs, ∃ v ∈ valuesOr E field substitute r,
        dateSlot? i zone v = .ok (some start)) ∧
      dateGroup i zone format start
        (rs.filter fun r => (valuesOr E field substitute r).any (startsAt i zone start)) =
          .ok g := by
  obtain ⟨entries, hentries, hgroups⟩ := dateIntervalGroups_eq_ok_iff.1 h
  obtain ⟨mentioned, hmentioned, rfl⟩ := entries_of_mapM hentries
  obtain ⟨⟨start, records⟩, hmem, hgroup⟩ := Sequencing.exists_step hgroups hg
  obtain ⟨⟨r, hr, hstart⟩, hrecords⟩ := mem_gather ((Sorting.sort_perm _ _).mem_iff.1 hmem)
  refine ⟨start, ⟨r, hr, (mem_of_dateSlots (hmentioned r hr)).1 hstart⟩, ?_⟩
  have hfilter : records =
      rs.filter fun r => (valuesOr E field substitute r).any (startsAt i zone start) := by
    refine hrecords.trans (List.filter_congr fun r hr => ?_)
    rw [Bool.eq_iff_iff, List.any_eq_true, List.any_eq_true]
    simp only [id_eq, decide_eq_true_eq, exists_eq_right, startsAt_iff]
    exact mem_of_dateSlots (hmentioned r hr)
  rw [← hfilter]
  exact Sequencing.eq_ok_of_mapError hgroup

end Sift.Grouping
