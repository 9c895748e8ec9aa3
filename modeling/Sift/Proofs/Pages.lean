import Mathlib.Data.List.Basic
import Sift.Proofs.FieldRenaming
import Sift.Proofs.ReadPaths

/-!
# Pages

A request asks for one page of what its query selects. The records are sorted before the page is
cut, and neither their number nor the aggregations depend on the page, so that pages of one size
laid end to end are the whole. Where a page starts and ends is computed in machine words, in which
the sum of an offset and a limit may be too large; it is then the largest word.

## Main definitions

* `Sift.SearchRequest.paged`: a request with another page.
* `Sift.SearchRequest.cut`: where a page starts and ends, in machine words.
* `Sift.SearchResult.entries`: what a page lists, records or rows.
* `Sift.SearchResult.Pages`: results that are the pages of one list.

## Main results

* `Sift.flatMap_pieces`: pieces of one length laid end to end.
* `Sift.SearchRequest.extract_cut`: the cut in machine words is the page.
* `Sift.Store.search_pages`: the answers to a request for different pages.
-/

set_option autoImplicit false

namespace Sift

/-! ## Cutting in machine words -/

/-- The sum of two words, or the largest word where the sum is too large for one. -/
def saturatingAdd (a b : UInt64) : UInt64 := if a + b < a then -1 else a + b

/-- The sum in words is the sum of the numbers as long as there is a word for it. -/
lemma toNat_saturatingAdd (a b : UInt64) :
    (saturatingAdd a b).toNat = min (a.toNat + b.toNat) (UInt64.size - 1) := by
  have ha := a.toNat_lt
  have hb := b.toNat_lt
  have hsum : (a + b).toNat = (a.toNat + b.toNat) % 2 ^ 64 := UInt64.toNat_add a b
  have hlast : (-1 : UInt64).toNat = 2 ^ 64 - 1 := rfl
  unfold saturatingAdd UInt64.size
  by_cases h : a + b < a
  · rw [if_pos h, hlast]
    rw [UInt64.lt_iff_toNat_lt, hsum] at h
    omega
  · rw [if_neg h, hsum]
    rw [UInt64.lt_iff_toNat_lt, hsum] at h
    omega

namespace SearchRequest

/-- The request for another page of the same. -/
def paged (r : SearchRequest) (offset limit : Nat) : SearchRequest :=
  { r with offset := offset, limit := limit }

/-- The positions in a list of some length between which a page lies. -/
def cut (offset limit total : UInt64) : UInt64 × UInt64 :=
  (min offset total, min (saturatingAdd (min offset total) limit) total)

/-- A page starts no later than it ends, and ends within the list. -/
lemma cut_le (offset limit total : UInt64) :
    (cut offset limit total).1 ≤ (cut offset limit total).2 ∧
      (cut offset limit total).2 ≤ total := by
  simp only [cut, UInt64.le_iff_toNat_le, UInt64.toNat_min, toNat_saturatingAdd]
  have hoffset := offset.toNat_lt
  have htotal := total.toNat_lt
  unfold UInt64.size
  omega

/-- What lies between the positions of a cut is the page. -/
theorem extract_cut {α : Type} {xs : List α} {offset limit total : UInt64}
    (htotal : total.toNat = xs.length) :
    xs.extract (cut offset limit total).1.toNat (cut offset limit total).2.toNat =
      (xs.drop offset.toNat).take limit.toNat := by
  have hword := total.toNat_lt
  have hstart : (cut offset limit total).1.toNat = min offset.toNat xs.length := by
    rw [cut, UInt64.toNat_min, htotal]
  have hstop : (cut offset limit total).2.toNat =
      min (min offset.toNat xs.length + limit.toNat) xs.length := by
    rw [cut, UInt64.toNat_min, toNat_saturatingAdd, UInt64.toNat_min, htotal]
    unfold UInt64.size
    omega
  rw [List.extract_eq_take_drop, hstart, hstop]
  by_cases h : offset.toNat ≤ xs.length
  · rw [Nat.min_eq_left h]
    refine List.take_eq_take_iff.2 ?_
    rw [List.length_drop]
    omega
  · have hpast : xs.length ≤ offset.toNat := by omega
    rw [Nat.min_eq_right hpast, List.drop_length, List.drop_eq_nil_of_le hpast, List.take_nil,
      List.take_nil]

end SearchRequest

/-! ## Laying pages end to end -/

/-- Pieces of one length laid end to end are the front of the list. -/
theorem flatMap_pieces {α : Type} (xs : List α) (size count : Nat) :
    (List.range count).flatMap (fun k => (xs.drop (k * size)).take size) =
      xs.take (count * size) := by
  induction count with
  | zero => simp
  | succ count ih =>
    rw [List.range_succ, List.flatMap_append, ih, List.flatMap_singleton, Nat.succ_mul,
      List.take_add]

namespace SearchResult

variable {T : Type}

/-- What a page lists: its records, or its rows where columns were asked for. -/
def entries (x : SearchResult T) : List (T ⊕ List Value) :=
  x.itemsOrEmpty.map .inl ++ (x.rows.getD []).map .inr

/-- Results for all offsets and limits that are the pages of one list. -/
structure Pages (total : Nat) (page : Nat → Nat → SearchResult T) : Prop where
  /-- Every page has the number of all entries. -/
  totalItems_eq (offset limit : Nat) : (page offset limit).totalItems = total
  /-- Every page has the same results of aggregations. -/
  aggs_eq (offset limit : Nat) : (page offset limit).aggs = (page 0 total).aggs
  /-- A page has as many entries as there are between its offset and its end. -/
  length_entries (offset limit : Nat) :
    (page offset limit).entries.length = min total (offset + limit) - offset
  /-- Pages of one size that reach to the end are the page of all entries, whatever its limit. -/
  flatMap_entries {size count limit : Nat} (hcount : total ≤ count * size)
    (hlimit : total ≤ limit) :
    (List.range count).flatMap (fun k => (page (k * size) size).entries) = (page 0 limit).entries
  /-- A page is what lies between two positions in machine words, in the right order and within the
  list. -/
  extract_entries {offset limit total' : UInt64} (htotal : total'.toNat = total) :
    let cut := SearchRequest.cut offset limit total'
    cut.1 ≤ cut.2 ∧ cut.2 ≤ total' ∧
      (page offset.toNat limit.toNat).entries =
        (page 0 total).entries.extract cut.1.toNat cut.2.toNat

/-- Results with the same aggregations and total are pages if they list the pages of a list. -/
lemma pages_of_entries {page : Nat → Nat → SearchResult T} {xs : List (T ⊕ List Value)}
    {aggs : Table AggregationResult} (htotal : ∀ o l, (page o l).totalItems = xs.length)
    (haggs : ∀ o l, (page o l).aggs = aggs)
    (hentries : ∀ o l, (page o l).entries = (xs.drop o).take l) : Pages xs.length page where
  totalItems_eq := htotal
  aggs_eq o l := by rw [haggs, haggs]
  length_entries o l := by
    rw [hentries, List.length_take, List.length_drop]
    omega
  flatMap_entries {size count limit} hcount hlimit := by
    simp only [hentries]
    rw [flatMap_pieces, List.drop_zero, List.take_of_length_le hcount,
      List.take_of_length_le hlimit]
  extract_entries {offset limit total'} ht := by
    have hcut := SearchRequest.cut_le offset limit total'
    refine ⟨hcut.1, hcut.2, ?_⟩
    have hall : (page 0 xs.length).entries = xs := by
      rw [hentries, List.drop_zero, List.take_of_length_le (Nat.le_refl _)]
    rw [hall, SearchRequest.extract_cut ht, hentries]

end SearchResult

/-! ## Answers of a store -/

namespace Store

variable {R : Type} (E : Evaluator R) (now : Instant)

/-- All that a request lists of some records in their order, before the page is cut. -/
def listing (r : SearchRequest) (ordered : List R) : List (R ⊕ List Value) :=
  ordered.map fun x => if r.fields.isEmpty then .inl x else .inr (SearchRequest.row E r.fields x)

/-- The entries of a page are the page of the entries. -/
lemma entries_resultOf (r : SearchRequest) (aggs : Table AggregationResult) (ordered : List R)
    (offset limit : Nat) :
    (resultOf E (r.paged offset limit) aggs ordered).entries =
      ((listing E r ordered).drop offset).take limit := by
  rw [listing, ← List.map_drop, ← List.map_take]
  by_cases h : r.fields.isEmpty
  · simp [resultOf, SearchRequest.paged, SearchRequest.page, SearchResult.entries,
      SearchResult.itemsOrEmpty, h]
  · simp [resultOf, SearchRequest.paged, SearchRequest.page, SearchResult.entries,
      SearchResult.itemsOrEmpty, h, Function.comp_def]

variable [Environment]

/-- The page is cut from what has been selected, computed and sorted without it. -/
lemma search_paged (s : Store R) (r : SearchRequest) (offset limit : Nat) :
    s.search E now (r.paged offset limit) =
      match s.matching E now (r.query.getD .matchAll) with
      | .error e => .error e
      | .ok ms =>
        match Aggregation.computeAll E now r.aggs ms with
        | .error e => .error e
        | .ok aggs => (SearchRequest.sorted E r.sorts ms).map
            (resultOf E (r.paged offset limit) aggs) :=
  rfl

/-- **Paging.** A request fails for all pages alike, or it is answered for all of them. The answers
are then the pages of one list with an entry for each record that the query selects, records where
no columns are asked for and rows otherwise.

**Proof sketch.** What the query selects, the results of the aggregations and the order of the
records do not depend on the page. A page is a piece of the sorted list, so that pieces of one
length make up its front, and the front of the length of the list is the list. -/
theorem search_pages (s : Store R) (r : SearchRequest) :
    (∃ e, ∀ offset limit, s.search E now (r.paged offset limit) = .error e) ∨
    ∃ p ms page, (r.query.getD .matchAll).compile E now = .ok p ∧
      Query.select p s.records = .ok ms ∧
      (∀ offset limit, s.search E now (r.paged offset limit) = .ok (page offset limit)) ∧
      SearchResult.Pages ms.length page ∧
      ∀ offset limit, (page offset limit).items.isSome = r.fields.isEmpty ∧
        (page offset limit).rows.isSome = !r.fields.isEmpty := by
  cases hms : s.matching E now (r.query.getD .matchAll) with
  | error e =>
    refine .inl ⟨e, fun offset limit => ?_⟩
    rw [search_paged, hms]
  | ok ms =>
    cases haggs : Aggregation.computeAll E now r.aggs ms with
    | error e =>
      refine .inl ⟨e, fun offset limit => ?_⟩
      simp only [search_paged, hms, haggs]
    | ok aggs =>
      cases hordered : SearchRequest.sorted E r.sorts ms with
      | error e =>
        refine .inl ⟨e, fun offset limit => ?_⟩
        simp only [search_paged, hms, haggs, hordered, Except.map]
      | ok ordered =>
        have hlength : (listing E r ordered).length = ms.length := by
          rw [listing, List.length_map, (SearchRequest.perm_of_sorted hordered).length_eq]
        obtain ⟨p, hp, hselect⟩ := matching_eq_ok_iff.1 hms
        refine .inr ⟨p, ms, fun o l => resultOf E (r.paged o l) aggs ordered, hp, hselect,
          fun offset limit => ?_, ?_, fun offset limit => ?_⟩
        · simp only [search_paged, hms, haggs, hordered, Except.map]
        · rw [← hlength]
          have htotal (o l : Nat) : (resultOf E (r.paged o l) aggs ordered).totalItems =
              (listing E r ordered).length := (List.length_map _).symm
          have hsame (o l : Nat) : (resultOf E (r.paged o l) aggs ordered).aggs = aggs := rfl
          exact SearchResult.pages_of_entries htotal hsame (entries_resultOf E r aggs ordered)
        · cases hfields : r.fields.isEmpty <;> simp [resultOf, SearchRequest.paged, hfields]

end Store

/-! ## Letters two by two -/

namespace Store

/-- Five records, of which the last one is no letter. -/
def letters : Store String :=
  Store.ofList [("1", "a"), ("2", "b"), ("3", "c"), ("4", "d"), ("5", "-")]

/-- A letter at every path, and null for what is no letter. -/
def letterAt : Evaluator String := fun record _ =>
  .ok (if record = "-" then .null else .str record)

/-- The letters in descending order, with nothing else asked for. -/
def descending : SearchRequest where
  query := some (.exists "letter")
  sorts := [{ field := "letter", direction := .descending }]

section Examples

attribute [local instance] Environment.isolated

/-- Two pages of two letters are all four letters, also where an offset and a limit have no sum
that is a word. -/
theorem search_letters_pages :
    ∃ page, (∀ offset limit, letters.search letterAt Instant.earliest
        (descending.paged offset limit) = .ok (page offset limit)) ∧
      SearchResult.Pages 4 page ∧ 4 ≤ 2 * 2 ∧
      (List.range 2).flatMap (fun k => (page (k * 2) 2).entries) =
        (page 0 (UInt64.size - 1)).entries ∧
      (page 0 (UInt64.size - 1)).entries = [.inl "d", .inl "c", .inl "b", .inl "a"] ∧
      (page 1 (UInt64.size - 1)).entries.length = 3 := by
  have hall : letters.search letterAt Instant.earliest (descending.paged 0 (UInt64.size - 1)) =
      .ok { items := some ["d", "c", "b", "a"], totalItems := 4 } := rfl
  rcases search_pages letterAt Instant.earliest letters descending with
    ⟨e, he⟩ | ⟨p, ms, page, -, -, hpage, hpages, -⟩
  · rw [he] at hall
    cases hall
  · have hwhole := Except.ok.inj ((hpage 0 (UInt64.size - 1)).symm.trans hall)
    have htotal : ms.length = 4 := by
      rw [← hpages.totalItems_eq 0 (UInt64.size - 1), hwhole]
    rw [htotal] at hpages
    refine ⟨page, hpage, hpages, by decide, hpages.flatMap_entries (by decide) (by decide), ?_, ?_⟩
    · rw [hwhole]
      rfl
    · rw [hpages.length_entries]
      decide

end Examples

end Store

end Sift
