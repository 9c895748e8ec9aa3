import Sift.Proofs.NestedFilters

/-!
# Buckets of named aggregations

A request may ask for a name among other aggregations. Each bucket of the answer to the name is a
group of the records that the query of the request selects, formed by the kind of the definition.
The name of the bucket, added to the query of another request, selects among the same records by
the filter that the name stands for.

## Main definitions

* `Sift.Vocabulary.matching`: the records that the query of a request selects.

## Main results

* `Sift.Vocabulary.exists_group_of_named`: a bucket of a named aggregation is a group of the
  records of the request.
* `Sift.Vocabulary.search_and_named`, `Sift.Vocabulary.search_within_named`: the name of a bucket
  selects among the records of the request.
-/

set_option autoImplicit false

namespace Sift.Vocabulary

variable {R : Type} [Environment] {E : Evaluator R} {now : Instant} {v : Vocabulary}

/-- The records of a store that the query of a request selects. -/
def matching (v : Vocabulary) (E : Evaluator R) (now : Instant) (r : SearchRequest)
    (s : Store R) : Except Error (List R) :=
  match r.query.mapM (v.query r.timeZone?) with
  | .error e => .error e
  | .ok q => s.matching E now (q.getD .matchAll)

/-- The query of a request selects what the predicate of the query that is sent selects. -/
lemma matching_eq_ok_iff {r : SearchRequest} {s : Store R} {rs : List R} :
    v.matching E now r s = .ok rs ↔
      ∃ q p, r.query.mapM (v.query r.timeZone?) = .ok q ∧
        (q.getD .matchAll).compile E now = .ok p ∧ Query.select p s.records = .ok rs := by
  unfold matching
  cases r.query.mapM (v.query r.timeZone?) with
  | error e => simp
  | ok q => simp [Store.matching_eq_ok_iff]

/-! ## What is sent for a name -/

omit [Environment] in
/-- What is sent for an aggregation keeps its key. -/
lemma key_of_aggregation {a a' : Aggregation} (h : v.aggregation a = .ok a') :
    a'.key = a.key := by
  have hexpand := Sequencing.eq_ok_of_mapError h
  obtain ⟨key, kind, aggs, extensions, least⟩ := a
  cases kind with
  | named name =>
    obtain ⟨d, before, after, -, -, -, rfl⟩ := Aggregation.expand_named_ok hexpand
    rfl
  | onField _ _ | filters _ =>
    obtain ⟨aggs', -, rfl⟩ := Aggregation.expand_other_ok
      (by simp [Aggregation.rename, AggregationKind.rename]) hexpand
    rfl

omit [Environment] in
/-- What is sent for a name is of the kind of its definition. -/
lemma kind_of_aggregation_named {name : String} {d : Aggregation}
    (hd : Table.find? name v.aggregations = some d) {a a' : Aggregation}
    (ha : a.kind = .named name) (h : v.aggregation a = .ok a') : a'.kind = d.kind := by
  have hsent : v.aggregationsOf [a] = .ok [a'] := by
    rw [aggregationsOf, Sequencing.mapM_cons, h]
    rfl
  obtain ⟨a₁, heq, -, hkind⟩ := aggregationsOf_named hd ha hsent
  rwa [List.singleton_inj.1 heq]

omit [Environment] in
/-- What is restored was computed for an aggregation that was asked for. -/
lemma exists_of_mem_restoreResults {as : List Aggregation} {t : Table AggregationResult}
    {e : String × AggregationResult} (h : e ∈ v.restoreResults as t) :
    ∃ a ∈ as, a.key = e.1 ∧ ∃ result, (e.1, result) ∈ t ∧ e.2 = v.restoreResult a result := by
  induction as generalizing t with
  | nil => cases h
  | cons a rest ih =>
    rw [restoreResults] at h
    split at h
    · rename_i result hresult
      rcases Table.mem_insert h with rfl | h
      · exact ⟨a, List.mem_cons_self, rfl, result, Table.mem_of_find? hresult, rfl⟩
      · obtain ⟨b, hb, hkey, result', hmem, heq⟩ := ih h
        exact ⟨b, List.mem_cons_of_mem _ hb, hkey, result', (List.mem_filter.1 hmem).1, heq⟩
    · obtain ⟨b, hb, hkey, result, hmem, heq⟩ := ih h
      exact ⟨b, List.mem_cons_of_mem _ hb, hkey, result, hmem, heq⟩

/-! ## Buckets -/

variable {name : String} {d : Aggregation} {r : SearchRequest} {s s₁ : Store R}

/-- A result with buckets was computed from groups. -/
lemma exists_groups_of_buckets {a : Aggregation} {rs : List R} {result : AggregationResult}
    (h : a.compute E now rs = .ok result) {bs : List Bucket} (hbs : result.buckets = some bs) :
    ∃ gs limit value, a.kind.find E now rs = .ok (.groups gs limit value) := by
  cases hfind : a.kind.find E now rs with
  | error e =>
    rw [Aggregation.compute_of_error hfind] at h
    cases h
  | ok x =>
    cases x with
    | groups gs limit value => exact ⟨gs, limit, value, rfl⟩
    | figures _ | single _ =>
      obtain ⟨key, kind, aggs, extensions, least⟩ := a
      rw [Aggregation.compute, hfind] at h
      obtain rfl := Except.ok.inj h
      cases hbs

/-- **Buckets are groups.** If a request asks for a name, every bucket of the answer counts the
records of a group with its key, which the kind of the definition finds among the records of the
request. -/
theorem exists_group_of_named (hd : Table.find? name v.aggregations = some d) {a : Aggregation}
    (ha : a.kind = .named name) (hr : a ∈ r.aggs) (honly : ∀ b ∈ r.aggs, b.key = a.key → b = a)
    {result : SearchResult R}
    (hsearch : (v.decorate (Store.backend E now)).search r s = (.ok result, s₁))
    {found : AggregationResult} (hfound : Table.find? a.key result.aggs = some found)
    {bs : List Bucket} (hbs : found.buckets = some bs) {b : Bucket} (hb : b ∈ bs) :
    s₁ = s ∧ ∃ rs gs limit value, v.matching E now r s = .ok rs ∧
      d.kind.find E now rs = .ok (.groups gs limit value) ∧
      ∃ g ∈ gs, b.key = g.key ∧ b.count = g.records.length := by
  obtain ⟨sent, answer, hsent, hanswer, rfl, rfl⟩ := search_decorate_eq_ok_iff.1 hsearch
  obtain ⟨q, as', hq, has', rfl⟩ := request_eq_ok_iff.1 hsent
  obtain ⟨ms, t, ordered, hms, ht, -, rfl⟩ := Store.search_eq_ok_iff.1 hanswer
  obtain ⟨p, hp, hselect⟩ := Store.matching_eq_ok_iff.1 hms
  -- The result was computed by what was sent for the name.
  obtain ⟨a₁, ha₁, hkey₁, computed, hcomputed, hrestored⟩ :=
    exists_of_mem_restoreResults (Table.mem_of_find? hfound)
  obtain rfl := honly a₁ ha₁ hkey₁
  obtain ⟨a', ha', hkey', hcompute⟩ := Aggregation.exists_of_mem_computeAll ht hcomputed
  obtain ⟨a₂, ha₂, hexpand⟩ := Sequencing.exists_step has' ha'
  obtain rfl := honly a₂ ha₂ ((key_of_aggregation hexpand).symm.trans hkey')
  have hkind := kind_of_aggregation_named hd ha hexpand
  -- Its buckets are groups.
  replace hrestored : found = _ := hrestored
  rw [hrestored] at hbs
  obtain ⟨bs₀, hbs₀, b₀, hb₀, hbkey, hbcount⟩ := exists_bucket_of_restoreResult hbs hb
  obtain ⟨gs, limit, value, hfind⟩ := exists_groups_of_buckets hcompute hbs₀
  obtain ⟨g, hg, hgkey, hgcount⟩ := Aggregation.exists_group_of_bucket hfind hcompute hbs₀ hb₀
  exact ⟨rfl, ms, gs, limit, value, matching_eq_ok_iff.2 ⟨q, p, hq, hp, hselect⟩, hkind ▸ hfind, g,
    hg, hbkey.trans hgkey, hbcount.trans hgcount⟩

/-- A request without aggregations finds the records that its query selects, if they can be
sorted. -/
lemma search_of_query {r' : SearchRequest} {q sent : Query} {p : R → Except Error Bool}
    {ms ordered : List R} (hquery : r'.query = some q)
    (hsent : v.query r'.timeZone? q = .ok sent) (hp : sent.compile E now = .ok p)
    (hselect : Query.select p s.records = .ok ms) (haggs : r'.aggs = [])
    (hordered : SearchRequest.sorted E (r'.sorts.map v.sortKey) ms = .ok ordered) :
    ∃ result', (v.decorate (Store.backend E now)).search r' s = (.ok result', s) ∧
      result'.totalItems = ordered.length := by
  have hq : r'.query.mapM (v.query r'.timeZone?) = .ok (some sent) := by
    rw [hquery, Option.mapM_some, hsent]
    rfl
  have hrequest := request_eq_ok_iff.2 ⟨_, [], hq, by rw [haggs]; rfl, rfl⟩
  have hmatching := Store.matching_eq_ok_iff.2 ⟨p, hp, hselect⟩
  exact ⟨_, search_decorate_eq_ok_iff.2 ⟨_, _, hrequest,
    Store.search_eq_ok_iff.2 ⟨ms, [], ordered, hmatching, rfl, hordered, rfl⟩, rfl, rfl⟩, rfl⟩

section

variable {r' : SearchRequest} {key : Value} {rs ns : List R} (hrs : v.matching E now r s = .ok rs)
  (hqueries : Table.find? name v.queries = none) (hd : Table.find? name v.aggregations = some d)
  {sel : Query} {psel : R → Except Error Bool}
  (hsel : d.kind.selection name key r.timeZone? = .ok sel)
  (hcompile : sel.compile E now = .ok psel) (hns : Query.select psel rs = .ok ns)
  (hparams : r'.params = r.params)
  (hsorts : Sorting.Sortable (SortKey.compareRecords E (r'.sorts.map v.sortKey)) s.records)

include hrs hqueries hd hsel hcompile hns hparams hsorts

/-- **Names of buckets are filters.** A name that is added to the query of a request selects among
the records of the request by the filter that it stands for. -/
theorem search_and_named (hquery : r'.query = some (.and (r.query.toList ++ [.named name key])))
    (haggs : r'.aggs = []) :
    ∃ result', (v.decorate (Store.backend E now)).search r' s = (.ok result', s) ∧
      result'.totalItems = ns.length := by
  obtain ⟨q, p, hq, hp, hselect⟩ := matching_eq_ok_iff.1 hrs
  have htimeZone : r'.timeZone? = r.timeZone? := by
    rw [SearchRequest.timeZone?, SearchRequest.timeZone?, hparams]
  have hnamed : v.query r'.timeZone? (.named name key) = .ok sel :=
    query_named hqueries hd (htimeZone ▸ hsel) hcompile
  obtain ⟨p₂, hp₂, hboth⟩ := Query.compile_and_filter hp hcompile
  obtain ⟨ordered, hordered, hlength⟩ := SearchRequest.exists_sorted_of_sublist hsorts
    ((Query.select_sublist hns).trans (Query.select_sublist hselect))
  rw [← hlength]
  exact search_of_query hquery (query_and_part (htimeZone ▸ hq) hnamed) hp₂ (hboth hselect hns)
    haggs hordered

/-- The name may also stand alone where the request has no query. -/
theorem search_within_named
    (hquery : r'.query = some (r.query.elim (.named name key) fun q => .and [q, .named name key]))
    (haggs : r'.aggs = []) :
    ∃ result', (v.decorate (Store.backend E now)).search r' s = (.ok result', s) ∧
      result'.totalItems = ns.length := by
  cases hnone : r.query with
  | some q =>
    rw [hnone] at hquery
    exact search_and_named hrs hqueries hd hsel hcompile hns hparams hsorts
      (by rw [hquery, hnone]; rfl) haggs
  | none =>
    obtain ⟨q, p, hq, hp, hselect⟩ := matching_eq_ok_iff.1 hrs
    have htimeZone : r'.timeZone? = r.timeZone? := by
      rw [SearchRequest.timeZone?, SearchRequest.timeZone?, hparams]
    rw [hnone] at hq hquery
    obtain rfl := Except.ok.inj hq
    obtain rfl := Except.ok.inj hp
    -- Without a query every record is one of the request.
    obtain rfl := Except.ok.inj ((Query.select_true s.records).symm.trans hselect)
    obtain ⟨ordered, hordered, hlength⟩ :=
      SearchRequest.exists_sorted_of_sublist hsorts (Query.select_sublist hns)
    rw [← hlength]
    exact search_of_query hquery (query_named hqueries hd (htimeZone ▸ hsel) hcompile) hcompile hns
      haggs hordered

end

end Sift.Vocabulary
