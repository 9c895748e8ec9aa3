import Mathlib.Data.List.Nodup
import Sift.Proofs.Nesting
import Sift.Proofs.OnePassGroups
import Sift.Proofs.StableSorting
import Sift.Proofs.TermBuckets

/-!
# Lists of terms

An aggregation of terms has a bucket for each text that some record holds, with the number of the
records that hold it. In the order of counts the list is exact from its head on: what is left out
because of a limit, and not because of the least count, is nowhere larger than what is listed. More
than twenty texts may be in no order, as where a double is equal to two integers: the list is then
in any order, or there is none.

## Main definitions

* `Sift.Grouping.HoldsText`: a record holds a text in a field.
* `Sift.Grouping.Unsortable`: groups that cannot be put in the order of counts.
* `Sift.Bucket.Listing`, `Sift.Bucket.TopList`: buckets list some texts, and those that most records
  hold.

## Main results

* `Sift.Grouping.termGroups_eq_gatherOnce`: groups of terms can be formed in one pass.
* `Sift.Grouping.nodup_termGroups`, `Sift.Grouping.exists_termGroup_iff`: one group for each text.
* `Sift.Grouping.pairwise_sort_byCount`: no group is behind a smaller one.
* `Sift.Aggregation.terms_top_list`: the buckets of an aggregation of terms.
* `Sift.Aggregation.compute_of_merged`: terms without a list.
-/

set_option autoImplicit false

namespace Sift

namespace Grouping

variable {R : Type} {E : Evaluator R} {field : String} {substitute : Option Value} {rs : List R}
  {text : String} {r : R}

/-- A record holds a text in a field, if a value other than null has the text. A record without such
values holds the text of the substitute for them. -/
def HoldsText (E : Evaluator R) (field : String) (substitute : Option Value) (text : String)
    (r : R) : Prop :=
  (∃ v ∈ E.extract r field, v ≠ .null ∧ v.toText = text) ∨
    (∀ v ∈ E.extract r field, v = .null) ∧ ∃ s ∈ substitute, s.toText = text

/-- The bucket with the text as its key counts the records that hold it. -/
lemma countsTerm_iff_holdsText : countsTerm substitute (.str text) (E.extract r field) = true ↔
    HoldsText E field substitute text r := countsTerm_iff

instance : Decidable (HoldsText E field substitute text r) :=
  decidable_of_iff _ countsTerm_iff_holdsText

/-! ## Groups -/

/-- Texts that are held are those of the values of a record, or of the substitute for them. -/
lemma holdsText_iff_valuesOr : HoldsText E field substitute text r ↔
    ∃ v ∈ valuesOr E field substitute r, v.toText = text := by
  rw [← countsTerm_iff_holdsText]
  show ((valuesOr E field substitute r).any fun v => v.toText = text) = true ↔ _
  simp only [List.any_eq_true, decide_eq_true_eq]

/-- A group of terms has the records that hold the text of its key. -/
lemma length_of_termGroups {g : Group R} (h : g ∈ termGroups E field substitute rs) :
    g.records.length = rs.countP fun r => HoldsText E field substitute g.key.toText r := by
  obtain ⟨-, hrecords⟩ := records_of_termGroups h
  rw [hrecords, List.countP_eq_length_filter]
  refine congrArg List.length (List.filter_congr fun r _ => Bool.eq_iff_iff.2 ?_)
  rw [decide_eq_true_iff, ← countsTerm_iff_holdsText]
  rfl

/-- **Groups of terms in one pass**: with an index of texts, and with the texts that a record has
mentioned. -/
theorem termGroups_eq_gatherOnce (E : Evaluator R) (field : String) (substitute : Option Value)
    (rs : List R) : termGroups E field substitute rs =
      (Group.gatherOnce Prod.fst (rs.map fun r =>
        (r, (valuesOr E field substitute r).map fun v => (v.toText, v)))).map fun e =>
          { key := e.1.2, records := e.2 } := by
  rw [Group.gatherOnce_eq_gather]
  rfl

/-- The values that records hold, each with its text. -/
def heldValues (E : Evaluator R) (field : String) (substitute : Option Value) (rs : List R) :
    List (String × Value) :=
  rs.flatMap fun r => (valuesOr E field substitute r).map fun v => (v.toText, v)

/-- The values that are held are those of records, or the substitute for them. -/
lemma mem_heldValues_iff {e : String × Value} : e ∈ heldValues E field substitute rs ↔
    e.1 = e.2.toText ∧ ∃ r ∈ rs, e.2 ∈ valuesOr E field substitute r := by
  rw [heldValues, List.mem_flatMap]
  constructor
  · rintro ⟨r, hr, hmem⟩
    obtain ⟨v, hv, rfl⟩ := List.mem_map.1 hmem
    exact ⟨rfl, r, hr, hv⟩
  · rintro ⟨htext, r, hr, hv⟩
    exact ⟨r, hr, List.mem_map.2 ⟨e.2, hv, Prod.ext htext.symm rfl⟩⟩

/-- The keys of groups are the first values with each text. -/
lemma map_key_termGroups (E : Evaluator R) (field : String) (substitute : Option Value)
    (rs : List R) : (termGroups E field substitute rs).map (fun g => g.key) =
      (Group.distinctBy Prod.fst (heldValues E field substitute rs)).map Prod.snd := by
  unfold termGroups Group.gather heldValues
  dsimp only
  rw [List.map_map, List.map_map, List.flatMap_map]
  rfl

/-- No two groups of terms have keys with the same text. -/
theorem nodup_termGroups (E : Evaluator R) (field : String) (substitute : Option Value)
    (rs : List R) : ((termGroups E field substitute rs).map fun g => g.key.toText).Nodup := by
  have hkeys := congrArg (List.map Value.toText) (map_key_termGroups E field substitute rs)
  rw [List.map_map, List.map_map] at hkeys
  refine (congrArg List.Nodup hkeys).mpr (List.pairwise_map.2 ?_)
  refine (Group.pairwise_distinctBy _ _).imp_of_mem fun {d e} hd he hne => ?_
  obtain ⟨htext, -⟩ := mem_heldValues_iff.1 (Group.mem_distinctBy hd)
  obtain ⟨htext', -⟩ := mem_heldValues_iff.1 (Group.mem_distinctBy he)
  rw [htext, htext'] at hne
  exact hne

/-- There is a group for each text that some record holds. -/
theorem exists_termGroup_iff : (∃ g ∈ termGroups E field substitute rs, g.key.toText = text) ↔
    ∃ r ∈ rs, HoldsText E field substitute text r := by
  constructor
  · rintro ⟨g, hg, rfl⟩
    obtain ⟨⟨r, hr, hkey⟩, -⟩ := records_of_termGroups hg
    exact ⟨r, hr, holdsText_iff_valuesOr.2 ⟨_, hkey, rfl⟩⟩
  · rintro ⟨r, hr, htext⟩
    obtain ⟨v, hv, rfl⟩ := holdsText_iff_valuesOr.1 htext
    have hheld : (v.toText, v) ∈ heldValues E field substitute rs :=
      mem_heldValues_iff.2 ⟨rfl, r, hr, hv⟩
    obtain ⟨e, he, hsame⟩ : ∃ e ∈ Group.distinctBy Prod.fst (heldValues E field substitute rs),
        e.1 = v.toText := Group.image_mem_distinctBy hheld
    obtain ⟨htext, -⟩ := mem_heldValues_iff.1 (Group.mem_distinctBy he)
    have hkey : e.2 ∈ (termGroups E field substitute rs).map fun g => g.key := by
      rw [map_key_termGroups]
      exact List.mem_map_of_mem he
    obtain ⟨g, hg, hgkey⟩ := List.mem_map.1 hkey
    exact ⟨g, hg, by rw [hgkey, ← htext, hsame]⟩

/-- **In the order of counts** no group is behind a smaller one, however keys of groups of one size
compare. -/
theorem pairwise_sort_byCount (gs : List (Group R)) :
    (Sorting.sort byCount gs).Pairwise fun g h => h.records.length ≤ g.records.length := by
  have hless : ∀ g h : Group R, byCount g h = .lt → h.records.length ≤ g.records.length := by
    intro g h hlt
    rcases Ordering.then_eq_lt.1 hlt with hlt | ⟨heq, -⟩
    · exact (compare_lt_iff_lt.1 hlt).le
    · exact (compare_eq_iff_eq.1 heq).le
  have hother : ∀ g h : Group R, byCount g h ≠ .lt → g.records.length ≤ h.records.length := by
    intro g h hlt
    refine not_lt.1 fun hlarger => hlt ?_
    exact Ordering.then_eq_lt.2 (.inl (compare_lt_iff_lt.2 hlarger))
  have hunordered : gs.Pairwise fun _ _ => True := List.pairwise_of_forall fun _ _ => trivial
  exact Sorting.pairwise_sort hunordered (fun _ _ _ _ _ _ hxy hyz => hyz.trans hxy)
    (fun g _ h _ => hless g h) (fun g _ h _ hlt _ => hother g h hlt)

/-- Groups that cannot be put in the order of counts: there are more than can be sorted by
insertion, and among those of one size the key of one merges the keys of two others. -/
def Unsortable (gs : List (Group R)) : Prop :=
  Sorting.insertionLimit < gs.length ∧ ∃ a ∈ gs, ∃ b ∈ gs, ∃ c ∈ gs,
    a.records.length = b.records.length ∧ b.records.length = c.records.length ∧
      b.key.Merges a.key c.key

instance (gs : List (Group R)) : Decidable (Unsortable gs) :=
  inferInstanceAs (Decidable (Sorting.insertionLimit < gs.length ∧ ∃ a ∈ gs, ∃ b ∈ gs, ∃ c ∈ gs,
    a.records.length = b.records.length ∧ b.records.length = c.records.length ∧
      b.key.Merges a.key c.key))

/-- All other groups can be put in the order of counts. -/
lemma unsortable_iff {gs : List (Group R)} : Unsortable gs ↔ ¬ Sorting.Sortable byCount gs := by
  rw [Unsortable, Sorting.Sortable, consistent_byCount_iff, not_or, Nat.not_le]
  refine and_congr_right fun _ => ?_
  push Not
  exact Iff.rfl

end Grouping

/-! ## Buckets -/

namespace Group

variable {R : Type} {gs : List (Group R)} {least limit : Option Nat}

/-- The groups that are kept are the first ones of those that are large enough. -/
lemma kept_eq_take : kept least limit gs =
    (kept least none gs).take (limit.getD (kept least none gs).length) := by
  cases limit with
  | none => exact List.take_length.symm
  | some n => rfl

/-- Without a limit the groups that are large enough are kept. -/
lemma mem_kept_none {g : Group R} :
    g ∈ kept least none gs ↔ g ∈ gs ∧ ∀ m ∈ least, m ≤ g.records.length := by
  show g ∈ gs.filter _ ↔ _
  rw [List.mem_filter]
  cases least <;> simp

end Group

/-- Buckets list some texts, up to a limit, with the numbers of the records that hold them. -/
structure Bucket.Listing (count : String → Nat) (texts : List String) (limit : Option Nat)
    (buckets : List Bucket) : Prop where
  /-- No text has two buckets. -/
  distinct : (buckets.map fun b => b.key.toText).Nodup
  /-- Only these texts have buckets. -/
  listed : ∀ b ∈ buckets, b.key.toText ∈ texts
  /-- Buckets count the records that hold their text. -/
  exact : ∀ b ∈ buckets, b.count = count b.key.toText
  /-- There are as many buckets as texts, or as many as there may be. -/
  length : buckets.length = min (limit.getD texts.length) texts.length

/-- Buckets list some texts by how many records hold them: the largest ones, up to a limit. -/
structure Bucket.TopList (count : String → Nat) (texts : List String) (limit : Option Nat)
    (buckets : List Bucket) : Prop extends Bucket.Listing count texts limit buckets where
  /-- No count is larger than one before it. -/
  descending : buckets.Pairwise fun b c => c.count ≤ b.count
  /-- A text without a bucket is not held by more records than a text with one. -/
  largest : ∀ text ∈ texts, (∀ b ∈ buckets, b.key.toText ≠ text) →
    ∀ b ∈ buckets, count text ≤ b.count

namespace Aggregation

open Grouping (HoldsText)

variable {R : Type}

section Buckets

variable {large : List (Group R)} {count : String → Nat} {limit : Option Nat}
  {buckets : List Bucket}
  (hbuckets : (buckets.map fun b => (b.key, b.count)) =
    (large.take (limit.getD large.length)).map fun g => (g.key, g.records.length))
  (hcount : ∀ g ∈ large, g.records.length = count g.key.toText)

include hbuckets in
/-- Buckets have the keys and the sizes of the first groups. -/
lemma exists_group_of_listed {b : Bucket} (hb : b ∈ buckets) :
    ∃ g ∈ large.take (limit.getD large.length), g.key = b.key ∧ g.records.length = b.count := by
  have hmem : (b.key, b.count) ∈ buckets.map fun b => (b.key, b.count) := List.mem_map_of_mem hb
  rw [hbuckets] at hmem
  obtain ⟨g, hg, heq⟩ := List.mem_map.1 hmem
  exact ⟨g, hg, Prod.mk.inj heq⟩

include hbuckets in
/-- The texts of buckets are those of the first groups. -/
lemma texts_of_listed : (buckets.map fun b => b.key.toText) =
    (large.take (limit.getD large.length)).map fun g => g.key.toText := by
  have htexts := congrArg (List.map fun e => e.1.toText) hbuckets
  rwa [List.map_map, List.map_map] at htexts

include hbuckets in
/-- The counts of buckets are the sizes of the first groups. -/
lemma counts_of_listed : (buckets.map fun b => b.count) =
    (large.take (limit.getD large.length)).map fun g => g.records.length := by
  have hlengths := congrArg (List.map fun e => e.2) hbuckets
  rwa [List.map_map, List.map_map] at hlengths

include hbuckets hcount in
/-- The first groups of a list without repetitions. -/
lemma listing_of_groups (hdistinct : (large.map fun g => g.key.toText).Nodup) :
    Bucket.Listing count (large.map fun g => g.key.toText) limit buckets where
  distinct := by
    rw [texts_of_listed hbuckets]
    exact hdistinct.sublist ((List.take_sublist _ _).map _)
  listed b hb := by
    obtain ⟨g, hg, hkey, -⟩ := exists_group_of_listed hbuckets hb
    exact List.mem_map.2 ⟨g, List.mem_of_mem_take hg, congrArg Value.toText hkey⟩
  exact b hb := by
    obtain ⟨g, hg, hkey, hlength⟩ := exists_group_of_listed hbuckets hb
    rw [← hkey, ← hlength]
    exact hcount g (List.mem_of_mem_take hg)
  length := by
    have hlength := congrArg List.length (counts_of_listed hbuckets)
    rw [List.length_map, List.length_map, List.length_take] at hlength
    rwa [List.length_map]

include hbuckets hcount in
/-- The first groups of a list without repetitions that is in the order of counts. -/
lemma topList_of_groups (hdistinct : (large.map fun g => g.key.toText).Nodup)
    (hsorted : large.Pairwise fun g h => h.records.length ≤ g.records.length) :
    Bucket.TopList count (large.map fun g => g.key.toText) limit buckets where
  toListing := listing_of_groups hbuckets hcount hdistinct
  descending := by
    have hlengths : (buckets.map fun b => b.count).Pairwise fun m n => n ≤ m := by
      rw [counts_of_listed hbuckets, List.pairwise_map]
      exact hsorted.sublist (List.take_sublist _ _)
    exact List.pairwise_map.1 hlengths
  largest text htext hnone b hb := by
    obtain ⟨g, hg, rfl⟩ := List.mem_map.1 htext
    obtain ⟨g', hg', -, hlength⟩ := exists_group_of_listed hbuckets hb
    rw [← hcount g hg, ← hlength]
    rw [← List.take_append_drop (limit.getD large.length) large] at hg hsorted
    rcases List.mem_append.1 hg with hg | hg
    · -- A group that is listed has a bucket.
      have hmem : g.key.toText ∈ buckets.map fun b => b.key.toText :=
        texts_of_listed hbuckets ▸ List.mem_map_of_mem hg
      obtain ⟨c, hc, hkey⟩ := List.mem_map.1 hmem
      exact absurd hkey (hnone c hc)
    · exact (List.pairwise_append.1 hsorted).2.2 g' hg' g hg

end Buckets

section Computations

variable [Environment] {E : Evaluator R} {now : Instant} {a : Aggregation} {field : String}
  {size : Option Nat} {sort : Option BucketOrder} {format : Option String}
  {substitute : Option Value} {rs : List R}

/-- The computation of terms is broken off if their groups are in no order and sorting does not
settle on any. -/
lemma compute_of_unsortable (hkind : a.kind = .onField field (.terms size sort format substitute))
    (hsort : sort.getD .count = .count)
    (h : Grouping.Unsortable (Grouping.termGroups E field substitute rs))
    (hdisorder : ¬ Environment.groupDisorder.Settles Grouping.byCount
      (Grouping.termGroups E field substitute rs)) :
    a.compute E now rs = .error .crash := by
  refine compute_of_error ?_
  rw [hkind, AggregationKind.find, Grouping.find, hsort]
  split
  · rename_i hsorted
    rw [Grouping.error_of_sorted hsorted]
  · rename_i gs hsorted
    exact ((Grouping.exists_sorted_iff.1 ⟨gs, hsorted⟩).elim (Grouping.unsortable_iff.1 h)
      hdisorder).elim

/-- Terms have a result if their groups can be sorted, and if the aggregations inside have results
for whatever records there are in a bucket. -/
lemma exists_compute_of_sorted {gs : List (Group R)}
    (hfind : a.kind.find E now rs = .ok (.groups gs size none))
    (hgroups : ∀ g ∈ gs, g ∈ Grouping.termGroups E field substitute rs)
    (hinner : ∀ inner : List R, inner.Sublist rs → ∃ t, computeAll E now a.aggs inner = .ok t) :
    ∃ result, a.compute E now rs = .ok result := by
  rw [compute_of_groups hfind, Sequencing.exists_ok_map_iff, Sequencing.exists_ok_mapM_iff]
  intro g hg
  obtain ⟨-, hrecords⟩ := Grouping.records_of_termGroups (hgroups g (Group.mem_of_mem_kept hg))
  have hresults := hinner g.records (hrecords ▸ List.filter_sublist)
  exact Sequencing.exists_ok_map_iff.2 (Sequencing.exists_ok_map_iff.1 hresults)

/-- What a computation lists for groups in some order: the texts of those that are large enough,
from the first one on. Where no group is behind a smaller one, these are the largest ones. -/
lemma exists_listing_of_sorted {gs : List (Group R)}
    (hfind : a.kind.find E now rs = .ok (.groups gs size none))
    (hperm : gs.Perm (Grouping.termGroups E field substitute rs)) {result : AggregationResult}
    (hresult : a.compute E now rs = .ok result) :
    let count := fun text => rs.countP fun r => HoldsText E field substitute text r
    ∃ (texts : List String) (buckets : List Bucket), result.buckets = some buckets ∧
      texts.Nodup ∧ (∀ text, text ∈ texts ↔
        (∃ r ∈ rs, HoldsText E field substitute text r) ∧ ∀ m ∈ a.minDocCount, m ≤ count text) ∧
      Bucket.Listing count texts size buckets ∧
      ((gs.Pairwise fun g h => h.records.length ≤ g.records.length) →
        Bucket.TopList count texts size buckets) := by
  intro count
  have hcount : ∀ g ∈ gs, g.records.length = count g.key.toText := fun g hg =>
    Grouping.length_of_termGroups (hperm.mem_iff.1 hg)
  have hlarge : List.Sublist (Group.kept a.minDocCount none gs) gs := List.filter_sublist
  have hexact : ∀ g ∈ Group.kept a.minDocCount none gs,
      g.records.length = count g.key.toText := fun g hg => hcount g (hlarge.subset hg)
  have hdistinct : ((Group.kept a.minDocCount none gs).map fun g => g.key.toText).Nodup :=
    ((hperm.map _).nodup_iff.2 (Grouping.nodup_termGroups E field substitute rs)).sublist
      (hlarge.map _)
  rw [compute_of_groups hfind] at hresult
  obtain ⟨buckets, hbuckets, rfl⟩ := Sequencing.exists_ok_of_map hresult
  have hshape : (buckets.map fun b => (b.key, b.count)) =
      ((Group.kept a.minDocCount none gs).take
        (size.getD (Group.kept a.minDocCount none gs).length)).map
          fun g => (g.key, g.records.length) := by
    rw [Group.kept_eq_take] at hbuckets
    refine Sequencing.map_eq_of_mapM hbuckets fun g b hb => ?_
    obtain ⟨results, -, rfl⟩ := Sequencing.exists_ok_of_map hb
    rfl
  refine ⟨(Group.kept a.minDocCount none gs).map fun g => g.key.toText, buckets, rfl, hdistinct,
    fun text => ?_, listing_of_groups hshape hexact hdistinct, fun hsorted =>
      topList_of_groups hshape hexact hdistinct (hsorted.sublist hlarge)⟩
  rw [← Grouping.exists_termGroup_iff]
  constructor
  · intro htext
    obtain ⟨g, hg, rfl⟩ := List.mem_map.1 htext
    obtain ⟨hg, hleast⟩ := Group.mem_kept_none.1 hg
    rw [hcount g hg] at hleast
    exact ⟨⟨g, hperm.mem_iff.1 hg, rfl⟩, hleast⟩
  · rintro ⟨⟨g, hg, rfl⟩, hleast⟩
    rw [← hcount g (hperm.mem_iff.2 hg)] at hleast
    exact List.mem_map.2 ⟨g, Group.mem_kept_none.2 ⟨hperm.mem_iff.2 hg, hleast⟩, rfl⟩

/-- **A list of terms** is exact. For an aggregation of the texts in a field in the order of counts,
let the texts be those that some record holds, if at least as many records as there must be hold
them. The buckets list these texts with how many records hold them, and the largest ones first, if
the groups can be put in the order of counts. Otherwise the list is in any order, or the computation
is broken off. If sorting is not, there is a result whenever the aggregations inside have results
for whatever records of the list there are in a bucket.

**Proof sketch.** There is one group for each text that is held, and it has the records that hold
it. Sorting puts no group behind a smaller one. The groups that are large enough are sorted too, and
the buckets are the first ones of them. -/
theorem terms_top_list (E : Evaluator R) (now : Instant)
    (hkind : a.kind = .onField field (.terms size sort format substitute))
    (hsort : sort.getD .count = .count) (rs : List R) :
    let count := fun text => rs.countP fun r => HoldsText E field substitute text r
    let groups := Grouping.termGroups E field substitute rs
    let settles := Environment.groupDisorder.Settles Grouping.byCount groups
    (Grouping.Unsortable groups ∧ ¬ settles → a.compute E now rs = .error .crash) ∧
    (¬ Grouping.Unsortable groups ∨ settles →
      (∀ inner : List R, inner.Sublist rs → ∃ t, computeAll E now a.aggs inner = .ok t) →
        ∃ result, a.compute E now rs = .ok result) ∧
    ∀ result, a.compute E now rs = .ok result →
      ∃ (texts : List String) (buckets : List Bucket), result.buckets = some buckets ∧
        texts.Nodup ∧ (∀ text, text ∈ texts ↔
          (∃ r ∈ rs, HoldsText E field substitute text r) ∧ ∀ m ∈ a.minDocCount, m ≤ count text) ∧
        Bucket.Listing count texts size buckets ∧
        (¬ Grouping.Unsortable groups → Bucket.TopList count texts size buckets) := by
  intro count groups settles
  have hfind : ∀ gs, Grouping.sorted Grouping.byCount groups = .ok gs →
      a.kind.find E now rs = .ok (.groups gs size none) := by
    intro gs hgs
    rw [hkind, AggregationKind.find, Grouping.find, hsort,
      show Grouping.sorted (Grouping.order .count) groups = .ok gs from hgs]
  refine ⟨fun h => compute_of_unsortable hkind hsort h.1 h.2, fun hsortable hinner => ?_,
    fun result hresult => ?_⟩
  · obtain ⟨gs, hgs⟩ := Grouping.exists_sorted_iff.2
      (hsortable.imp_left fun h => not_not.1 (mt Grouping.unsortable_iff.2 h))
    exact exists_compute_of_sorted (hfind gs hgs)
      (fun g hg => (Grouping.perm_of_sorted hgs).mem_iff.1 hg) hinner
  · obtain ⟨gs, hgs⟩ : ∃ gs, Grouping.sorted Grouping.byCount groups = .ok gs := by
      refine Grouping.exists_sorted_iff.2 (or_iff_not_imp_left.2 fun h => not_not.1 fun hnot => ?_)
      rw [compute_of_unsortable hkind hsort (Grouping.unsortable_iff.2 h) hnot] at hresult
      cases hresult
    obtain ⟨texts, buckets, hbuckets, hdistinct, htexts, hlisting, htop⟩ :=
      exists_listing_of_sorted (hfind gs hgs) (Grouping.perm_of_sorted hgs) hresult
    refine ⟨texts, buckets, hbuckets, hdistinct, htexts, hlisting, fun hsortable => htop ?_⟩
    -- Groups that can be put in order are in the order of counts.
    have hsort := Grouping.sorted_eq_ok_iff.1 hgs
    rw [Sorting.sort?_of_sortable _ (not_not.1 (mt Grouping.unsortable_iff.2 hsortable))] at hsort
    exact Option.some.inj hsort ▸ Grouping.pairwise_sort_byCount groups

end Computations

end Aggregation

/-! ## The colour of most shirts -/

namespace Aggregation

open Grouping (HoldsText)

/-- The colour that most shirts have, with a word for shirts that have none. -/
def topColour : Aggregation where
  key := "colour"
  kind := .onField "colour" (.terms (some 1) none none (some (.str "none")))

/-- Integers just above a power of two, and the power itself as a double. It is equal to each of
them in the order of values, though they differ. -/
def merged : List Value :=
  let integers := (List.range 20).map fun k => Value.long (Int64.ofNat (2 ^ 60 + 1 + 7 * k % 20))
  integers.take 10 ++ .double (Floating.ofInt (2 ^ 60)) :: integers.drop 10

/-- The values themselves, at every path. -/
def itself : Evaluator Value := fun v _ => .ok v

section Examples

attribute [local instance] Environment.isolated

/-- Of a shirt without a colour and two red ones, the red ones have the bucket. -/
theorem topColour_top_list :
    ∃ (texts : List String) (buckets : List Bucket),
      some [{ key := .str "red", count := 2 }] = some buckets ∧ texts.Nodup ∧
      (∀ text, text ∈ texts ↔
        (∃ r ∈ [none, some "red", some "red"],
          HoldsText Vocabulary.colourOf "colour" (some (.str "none")) text r) ∧
        ∀ m ∈ none, m ≤ [none, some "red", some "red"].countP fun r =>
          HoldsText Vocabulary.colourOf "colour" (some (.str "none")) text r) ∧
      Bucket.Listing (fun text => [none, some "red", some "red"].countP fun r =>
        HoldsText Vocabulary.colourOf "colour" (some (.str "none")) text r)
        texts (some 1) buckets ∧
      (¬ Grouping.Unsortable (Grouping.termGroups Vocabulary.colourOf "colour"
          (some (.str "none")) [none, some "red", some "red"]) →
        Bucket.TopList (fun text => [none, some "red", some "red"].countP fun r =>
          HoldsText Vocabulary.colourOf "colour" (some (.str "none")) text r)
          texts (some 1) buckets) :=
  (terms_top_list Vocabulary.colourOf Instant.earliest (a := topColour) rfl rfl
    [none, some "red", some "red"]).2.2
    { key := "colour", buckets := some [{ key := .str "red", count := 2 }] } rfl

/-- **Terms without a list.** Each of these values occurs once and has a text of its own, but there
are no buckets, since they are in no order and break off the sorting of their groups. -/
theorem compute_of_merged :
    ({ key := "t", kind := .onField "f" (.terms none none none none) } : Aggregation).compute itself
      Instant.earliest merged = .error .crash :=
  compute_of_unsortable rfl rfl (by decide +kernel) (Sorting.not_settles_refused _ _)

end Examples

end Aggregation

end Sift
