import Sift.Proofs.Leaves
import Sift.Proofs.StableSorting
import Sift.Store.Search
import Sift.Vocabulary.Request

/-!
# A store behind a vocabulary

A search in a vocabulary is a search of the store for the request that is sent, with a result in
the words of the caller. Both halves are taken apart here: what a request consists of when it is
sent, and what a store that answers it has computed.

## Main results

* `Sift.Store.search_eq_ok_iff`: what an answer of a store consists of.
* `Sift.Vocabulary.query_of_resolved`, `Sift.Vocabulary.query_and`: queries that are sent.
* `Sift.Vocabulary.request_eq_ok_iff`: what is sent for a request.
* `Sift.Vocabulary.search_decorate`: a search of the store behind a vocabulary.
-/

set_option autoImplicit false

namespace Sift

/-! ## Records in the order that is asked for -/

/-- The order of two records. -/
def SortKey.compareRecords {R : Type} (E : Evaluator R) (sorts : List SortKey) (r r' : R) :
    Ordering :=
  compareAll sorts (SearchRequest.sortValues E sorts r) (SearchRequest.sortValues E sorts r')

namespace SearchRequest

variable {R : Type} {E : Evaluator R} {sorts : List SortKey} {rs ms ordered : List R}

/-- Records can be sorted without sort keys. -/
lemma sortable_nil (E : Evaluator R) (rs : List R) :
    Sorting.Sortable (SortKey.compareRecords E []) rs :=
  .inr fun _ _ _ _ => ⟨rfl, fun _ _ _ _ => nofun⟩

variable [Environment]

/-- Without sort keys records stay as they are. -/
lemma sorted_nil (E : Evaluator R) (rs : List R) : sorted E [] rs = .ok rs := rfl

/-- Sorting records by keys is sorting them by the order of records. -/
lemma sorted_eq_ok_iff (hsorts : sorts ≠ []) : sorted E sorts rs = .ok ordered ↔
    Sorting.sort? Environment.recordDisorder (SortKey.compareRecords E sorts) rs =
      some ordered := by
  have hentries := Sorting.sort?_map Environment.recordDisorder
    (fun r => (sortValues E sorts r, r)) (fun a b => SortKey.compareAll sorts a.1 b.1) rs
  have hrecords : (fun r r' => SortKey.compareAll sorts (sortValues E sorts r)
      (sortValues E sorts r')) = SortKey.compareRecords E sorts := rfl
  rw [hrecords] at hentries
  rw [sorted, if_neg (mt List.isEmpty_iff.1 hsorts), hentries]
  cases Sorting.sort? Environment.recordDisorder (SortKey.compareRecords E sorts) rs <;>
    simp [Function.comp_def]

/-- Sorting loses and invents no records. -/
lemma perm_of_sorted (h : sorted E sorts rs = .ok ordered) : ordered.Perm rs := by
  by_cases hsorts : sorts = []
  · obtain rfl := hsorts
    exact Except.ok.inj h ▸ .refl _
  · exact Sorting.sort?_perm ((sorted_eq_ok_iff hsorts).1 h)

/-- **Records in the order of sort keys**, where the keys order them. -/
theorem sorted_of_sortable (h : Sorting.Sortable (SortKey.compareRecords E sorts) rs) :
    sorted E sorts rs = .ok (Sorting.sort (SortKey.compareRecords E sorts) rs) := by
  by_cases hsorts : sorts = []
  · obtain rfl := hsorts
    have hequal : ∀ r r' : R, SortKey.compareRecords E [] r r' ≠ .lt := fun _ _ => nofun
    rw [Sorting.sort_eq_self hequal, sorted_nil]
  · exact (sorted_eq_ok_iff hsorts).2 (Sorting.sort?_of_sortable _ h)

/-- Some of the records that can be sorted are sorted. -/
lemma exists_sorted_of_sublist (h : Sorting.Sortable (SortKey.compareRecords E sorts) rs)
    (hms : ms.Sublist rs) :
    ∃ ordered', sorted E sorts ms = .ok ordered' ∧ ordered'.length = ms.length :=
  ⟨_, sorted_of_sortable (h.sublist hms), (Sorting.sort_perm _ ms).length_eq⟩

end SearchRequest

/-! ## What a store answers -/

section Stores

variable {R : Type} [Environment] {E : Evaluator R} {now : Instant} {s : Store R}

/-- The records that a query selects are those that its predicate selects. -/
lemma Store.matching_eq_ok_iff {q : Query} {ms : List R} :
    s.matching E now q = .ok ms ↔
      ∃ p, q.compile E now = .ok p ∧ Query.select p s.records = .ok ms := by
  rw [matching]
  cases q.compile E now with
  | error e => simp
  | ok p => simp

/-- A store answers a request if its query selects records, its aggregations can be computed for
them, and its sort keys put them in order. -/
theorem Store.search_eq_ok_iff {r : SearchRequest} {result : SearchResult R} :
    s.search E now r = .ok result ↔
      ∃ ms t ordered, s.matching E now (r.query.getD .matchAll) = .ok ms ∧
        Aggregation.computeAll E now r.aggs ms = .ok t ∧
        SearchRequest.sorted E r.sorts ms = .ok ordered ∧ result = resultOf E r t ordered := by
  constructor
  · intro h
    rw [search] at h
    split at h
    · cases h
    · rename_i ms hms
      split at h
      · cases h
      · rename_i t ht
        obtain ⟨ordered, hordered, rfl⟩ := Sequencing.exists_ok_of_map h
        exact ⟨ms, t, ordered, hms, ht, hordered, rfl⟩
  · rintro ⟨ms, t, ordered, hms, ht, hordered, rfl⟩
    simp only [search, hms, ht, hordered, Except.map]

end Stores

namespace Vocabulary

variable {v : Vocabulary} {timeZone : Option String}

/-! ## Queries -/

/-- A query without names is kept as it is. -/
lemma expandNames_of_resolved {q : Query} (h : q.Resolved) :
    v.expandNames timeZone q = .ok q := by
  refine Query.substitute_eq_self q fun l hl => ?_
  have hp : l.isPlaceholder = false := h l hl
  cases l with
  | named n k => cases hp
  | and _ | or _ | not _ | leaf _ _ | text _ _ | matchAll => rfl

/-- A query without texts and names is renamed, and nothing else happens to it. -/
theorem query_of_resolved {q : Query} (h : q.Resolved) :
    v.query timeZone q = .ok (q.rename v.fieldName) := by
  rw [query, Query.expandTexts_of_resolved h]
  exact expandNames_of_resolved ((Query.resolved_rename _ q).2 h)

/-- The query that is sent comes from the expansion of texts and then of names. -/
lemma query_eq_ok_iff {q q' : Query} :
    v.query timeZone q = .ok q' ↔
      ∃ q₁, q.expandTexts = .ok q₁ ∧ v.expandNames timeZone (q₁.rename v.fieldName) = .ok q' := by
  rw [query]
  cases q.expandTexts with
  | error e => simp
  | ok q₁ => simp

/-- The parts of a conjunction are sent as its parts. -/
theorem query_and {of of' : List Query} (h : of.mapM (v.query timeZone) = .ok of') :
    v.query timeZone (.and of) = .ok (.and of') := by
  have hparts : ∃ of₁, of.mapM Query.expandTexts = .ok of₁ ∧
      (of₁.map (Query.rename v.fieldName)).mapM (v.expandNames timeZone) = .ok of' := by
    induction of generalizing of' with
    | nil => exact ⟨[], rfl, h⟩
    | cons q rest ih =>
      rw [Sequencing.mapM_cons] at h
      cases hq : v.query timeZone q with
      | error e =>
        rw [hq] at h
        cases h
      | ok q' =>
        cases hrest : rest.mapM (v.query timeZone) with
        | error e =>
          rw [hq, hrest] at h
          cases h
        | ok rest' =>
          rw [hq, hrest] at h
          obtain rfl := Except.ok.inj h
          obtain ⟨q₁, htexts, hnames⟩ := query_eq_ok_iff.1 hq
          obtain ⟨rest₁, hrtexts, hrnames⟩ := ih hrest
          refine ⟨q₁ :: rest₁, ?_, ?_⟩
          · rw [Sequencing.mapM_cons, htexts, hrtexts]
          · rw [List.map_cons, Sequencing.mapM_cons, hnames, hrnames]
  obtain ⟨of₁, htexts, hnames⟩ := hparts
  refine query_eq_ok_iff.2 ⟨.and of₁, ?_, ?_⟩
  · show Except.map Query.and (Query.substituteAll Query.expandText of) = _
    rw [Query.substituteAll_eq_mapM]
    exact congrArg (Except.map Query.and) htexts
  · rw [Query.rename, Query.renameAll_eq_map]
    show Except.map Query.and (Query.substituteAll (v.expandName timeZone) _) = _
    rw [Query.substituteAll_eq_mapM]
    exact congrArg (Except.map Query.and) hnames

/-! ## Requests -/

/-- A request is sent if its query and its aggregations can be. -/
theorem request_eq_ok_iff {r sent : SearchRequest} :
    v.request r = .ok sent ↔
      ∃ q aggs, r.query.mapM (v.query r.timeZone?) = .ok q ∧ v.aggregationsOf r.aggs = .ok aggs ∧
        sent = { r with
          query := q
          fields := v.columns r.fields r.fieldSet
          fieldSet := r.fieldSet.filter fun name => !Table.contains name v.fieldSets
          sorts := r.sorts.map v.sortKey
          aggs := aggs } := by
  rw [request]
  cases r.query.mapM (v.query r.timeZone?) with
  | error e => simp
  | ok q =>
    cases v.aggregationsOf r.aggs with
    | error e => simp
    | ok aggs => simp [eq_comm]

/-- A search in a vocabulary leaves the store as it is, and answers what is sent for the request. -/
theorem search_decorate {R : Type} [Environment] (v : Vocabulary) (E : Evaluator R) (now : Instant)
    (r : SearchRequest) (s : Store R) :
    (v.decorate (Store.backend E now)).search r s =
      ((v.request r).bind fun sent => (s.search E now sent).map (v.restore r), s) := by
  simp only [decorate, searchWith]
  cases v.request r <;> rfl

/-- A search in a vocabulary that succeeds has sent a request that the store answers. -/
lemma search_decorate_eq_ok_iff {R : Type} [Environment] {E : Evaluator R} {now : Instant}
    {r : SearchRequest} {s s₁ : Store R} {result : SearchResult R} :
    (v.decorate (Store.backend E now)).search r s = (.ok result, s₁) ↔
      ∃ sent found, v.request r = .ok sent ∧ s.search E now sent = .ok found ∧
        result = v.restore r found ∧ s₁ = s := by
  rw [search_decorate]
  show ((_, s) : Except Error (SearchResult R) × Store R) = (_, s₁) ↔ _
  rw [Prod.mk.injEq]
  constructor
  · rintro ⟨hanswer, rfl⟩
    cases hsent : v.request r with
    | error e =>
      rw [hsent] at hanswer
      cases hanswer
    | ok sent =>
      rw [hsent] at hanswer
      obtain ⟨found, hfound, rfl⟩ := Sequencing.exists_ok_of_map hanswer
      exact ⟨sent, found, rfl, hfound, rfl, rfl⟩
  · rintro ⟨sent, found, hsent, hfound, rfl, rfl⟩
    rw [hsent, Except.bind, hfound]
    exact ⟨rfl, rfl⟩

end Vocabulary

end Sift
