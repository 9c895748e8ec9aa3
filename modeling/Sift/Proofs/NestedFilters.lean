import Sift.Proofs.DrillDown

/-!
# Filters inside and outside

The records of a bucket that a filter forms are the records of the search with the filter as one
more part of its query. What is aggregated inside the bucket is therefore what this search
aggregates: the same records are there in the same order, and an aggregation depends on nothing
else.

## Main results

* `Sift.Aggregation.exists_of_mem_computeAll`: every result is computed by one of the aggregations.
* `Sift.Store.search_filter_of_bucket`: a bucket answers the search with its filter.
-/

set_option autoImplicit false

namespace Sift

section Buckets

variable {R : Type} [Environment] {E : Evaluator R} {now : Instant}

/-- Every result is computed by one of the aggregations, of which it has the key. -/
theorem Aggregation.exists_of_mem_computeAll {as : List Aggregation} {rs : List R}
    {t : Table AggregationResult} (h : computeAll E now as rs = .ok t)
    {e : String × AggregationResult} (he : e ∈ t) :
    ∃ a ∈ as, a.key = e.1 ∧ a.compute E now rs = .ok e.2 := by
  obtain ⟨results, hresults, rfl⟩ := Sequencing.exists_ok_of_map h
  rw [computeEach_eq_mapM] at hresults
  obtain ⟨result, hresult, rfl⟩ := List.mem_map.1 (Table.mem_of_mem_ofList he)
  obtain ⟨a, ha, hcompute⟩ := Sequencing.exists_step hresults hresult
  exact ⟨a, ha, (key_of_compute hcompute).symm, hcompute⟩

/-- **Nesting is filtering.** If a search with filters among its aggregations succeeds, the bucket
of each filter has what the search with the filter as one more part of the query finds, when it
asks for the aggregations that are inside the bucket, and for no order or one that sort keys put the
records in: this search succeeds, it finds as many records as the bucket counts, and its results are
the results of the bucket.

**Proof sketch.** The records of the bucket are what the filter selects from the records of the
first search, and the same list is what the second query selects from the store. The aggregations
inside the bucket were computed for it without a failure, and are computed for it again. -/
theorem Store.search_filter_of_bucket {s : Store R} {r r' : SearchRequest}
    {result : SearchResult R} (hsearch : s.search E now r = .ok result)
    {a : Aggregation} (ha : a ∈ r.aggs) (honly : ∀ a' ∈ r.aggs, a'.key = a.key → a' = a)
    {fs : List (String × Query)} (hfs : Table.Sorted fs) (hkind : a.kind = .filters fs)
    {name : String} {filter : Query} (hfilter : (name, filter) ∈ fs)
    {found : AggregationResult} (hfound : Table.find? a.key result.aggs = some found)
    {bs : List Bucket} (hbs : found.buckets = some bs) {b : Bucket} (hb : b ∈ bs)
    (hkey : b.key = .str name)
    (hquery : r'.query = some (.and (r.query.toList ++ [filter]))) (haggs : r'.aggs = a.aggs)
    (hsorts : Sorting.Sortable (SortKey.compareRecords E r'.sorts) s.records) :
    ∃ result', s.search E now r' = .ok result' ∧
      result'.totalItems = b.count ∧ result'.aggs = b.aggs := by
  obtain ⟨ms, t, ordered, hms, ht, -, rfl⟩ := search_eq_ok_iff.1 hsearch
  obtain ⟨p, hp, hselect⟩ := matching_eq_ok_iff.1 hms
  obtain ⟨a', ha', hkey', hcompute⟩ :=
    Aggregation.exists_of_mem_computeAll ht (Table.mem_of_find? hfound)
  obtain rfl := honly a' ha' hkey'
  -- The bucket is the group of the filter with results for its records.
  obtain ⟨x, hfind⟩ : ∃ x, a'.kind.find E now ms = .ok x := by
    cases hfind : a'.kind.find E now ms with
    | ok x => exact ⟨x, rfl⟩
    | error e =>
      rw [Aggregation.compute_of_error hfind] at hcompute
      cases hcompute
  obtain ⟨gs, rfl, hgroups⟩ := AggregationKind.groups_of_filters (hkind ▸ hfind)
  obtain ⟨g, hg, results, hresults, rfl⟩ :=
    Aggregation.exists_results_of_bucket hfind hcompute hbs hb
  obtain ⟨name', filter', pfilter, hmem, hpfilter, hrecords, hgroup⟩ := hgroups g hg
  rw [hgroup] at hkey
  obtain rfl := Value.str.inj hkey
  obtain rfl := hfs.eq_of_mem hmem hfilter
  -- The second search meets the records of the group.
  obtain ⟨p', hp', hboth⟩ := Query.compile_and_filter hp hpfilter
  have hms' : s.matching E now (r'.query.getD .matchAll) = .ok g.records :=
    matching_eq_ok_iff.2 ⟨p', hquery ▸ hp', hboth hselect hrecords⟩
  have hcomputed : Aggregation.computeAll E now r'.aggs g.records =
      .ok (AggregationResult.tabulate results) := by
    rw [haggs, Aggregation.computeAll, hresults]
    rfl
  obtain ⟨ordered', hordered, hlength⟩ := SearchRequest.exists_sorted_of_sublist hsorts
    ((Query.select_sublist hrecords).trans (Query.select_sublist hselect))
  exact ⟨_, search_eq_ok_iff.2 ⟨_, _, _, hms', hcomputed, hordered, rfl⟩, hlength, rfl⟩

end Buckets

/-! ## Tickets -/

namespace Store

/-- Tickets with a tier and an amount. -/
def tickets : Store (String × Int) :=
  ofList [("1", ("gold", 30)), ("2", ("iron", 20)), ("3", ("gold", 5)), ("4", ("gold", 30))]

/-- The fields of a ticket. -/
def ticketField : Evaluator (String × Int) := fun ticket path =>
  .ok (if path = "tier" then .str ticket.1 else .long (Int64.ofInt ticket.2))

/-- The amounts, each with the number of its tickets. -/
def amounts : Aggregation where
  key := "amounts"
  kind := .onField "amount" (.terms none none none none)

/-- The tickets of the highest tier, with their amounts. -/
def golden : Aggregation where
  key := "tiers"
  kind := .filters [("top", .leaf "tier" (.term (.str "gold")))]
  aggs := [amounts]

/-- The only bucket of the tickets of the highest tier among those that are large. -/
def goldenBucket : Bucket where
  key := .str "top"
  count := 2
  aggs := [("amounts", {
    key := "amounts", buckets := some [{ key := .long 30, count := 2 }] })]
  query := some (.leaf "tier" (.term (.str "gold")))

section Examples

attribute [local instance] Environment.isolated

/-- Two of the four tickets are large and of the highest tier. Inside the bucket of the tier and
for the query with the tier the amounts are the same. -/
theorem search_filter_of_golden :
    (∃ result, tickets.search ticketField Instant.earliest
        { query := some (.leaf "amount" (.range { gt := some (.long 5) })), aggs := [golden] } =
          .ok result ∧
      Table.find? "tiers" result.aggs = some {
        key := "tiers", buckets := some [goldenBucket] }) ∧
    ∃ result', tickets.search ticketField Instant.earliest
        { query := some (.and [.leaf "amount" (.range { gt := some (.long 5) }),
            .leaf "tier" (.term (.str "gold"))])
          aggs := [amounts] } = .ok result' ∧
      result'.totalItems = goldenBucket.count ∧ result'.aggs = goldenBucket.aggs := by
  refine ⟨⟨_, rfl, rfl⟩, ?_⟩
  exact search_filter_of_bucket
    (r := { query := some (.leaf "amount" (.range { gt := some (.long 5) })), aggs := [golden] })
    (a := golden) (b := goldenBucket) rfl List.mem_cons_self
    (fun _ h _ => List.mem_singleton.1 h) (List.pairwise_singleton _ _) rfl List.mem_cons_self rfl
    rfl List.mem_cons_self rfl rfl rfl (SearchRequest.sortable_nil _ _)

end Examples

end Store

end Sift
