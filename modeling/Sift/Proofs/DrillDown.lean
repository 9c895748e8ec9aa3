import Sift.Proofs.Decoration
import Sift.Proofs.Expansion

/-!
# From a bucket to its records

A bucket of a named aggregation can be asked for by the name of the aggregation and the key of the
bucket. For filters and for missing values the two ways meet: what the aggregation counts when it
forms the bucket is what the named query selects when it is added to the query of the request.

## Main definitions

* `Sift.AggregationKind.Filtering`: the kinds that form buckets by filters.

## Main results

* `Sift.AggregationKind.Filtering.exists_selection`: a group is what the filter of its bucket
  selects.
* `Sift.Vocabulary.totalItems_eq_count`: the named query of a bucket finds as many records as the
  bucket counts.
-/

set_option autoImplicit false

namespace Sift

/-- The kinds that form buckets by filters: a table of filters, and the filter for records without a
value. -/
inductive AggregationKind.Filtering : AggregationKind → Prop where
  /-- Filters by their names, of which no two are equal. -/
  | filters {fs : List (String × Query)} (h : Table.Sorted fs) : Filtering (.filters fs)
  /-- The records without a value. -/
  | missing (field : String) : Filtering (.onField field .missing)

section Groups

variable {R : Type} [Environment] {E : Evaluator R} {now : Instant}

/-! ## Groups -/

/-- The filter for records without a value holds where every value is null. -/
lemma Query.compile_not_exists (field : String) :
    (Query.not [.exists field]).compile E now =
      .ok fun r => .ok ((E.extract r field).all Value.isNull) := by
  have hcompile : (Query.exists field).compile E now =
      .ok fun r => .ok ((E.extract r field).any fun v => !v.isNull) := rfl
  rw [compile_not, Sequencing.mapM_cons, hcompile]
  refine congrArg Except.ok (funext fun r => ?_)
  show Except.map Bool.not ([fun r => .ok ((E.extract r field).any fun v => !v.isNull)].anyM
    fun p : R → Except Error Bool => p r) = _
  have hnull : (E.extract r field).all Value.isNull =
      !(E.extract r field).any fun v => !v.isNull := by
    simp [List.not_any_eq_all_not]
  rw [Sequencing.anyM_cons, hnull]
  dsimp only
  cases (E.extract r field).any fun v => !v.isNull <;> rfl

/-- Filters find groups, each with the name of a filter and what the filter selects. -/
lemma AggregationKind.groups_of_filters {fs : List (String × Query)} {rs : List R}
    {x : Finding R} (h : find E now rs (.filters fs) = .ok x) :
    ∃ gs, x = .groups gs none none ∧ ∀ g ∈ gs, ∃ name filter p, (name, filter) ∈ fs ∧
      filter.compile E now = .ok p ∧ Query.select p rs = .ok g.records ∧
        g = { key := .str name, query := some filter, records := g.records } := by
  rw [find] at h
  cases hgs : fs.mapM (filterGroup E now rs) with
  | error e =>
    rw [hgs] at h
    cases h
  | ok gs =>
    rw [hgs] at h
    refine ⟨gs, (Except.ok.inj h).symm, fun g hg => ?_⟩
    obtain ⟨⟨name, filter⟩, hmem, hgroup⟩ := Sequencing.exists_step hgs hg
    rw [filterGroup] at hgroup
    cases hp : filter.compile E now with
    | error e =>
      rw [hp] at hgroup
      cases hgroup
    | ok p =>
      rw [hp] at hgroup
      obtain ⟨selected, hselected, rfl⟩ := Sequencing.exists_ok_of_map hgroup
      exact ⟨name, filter, p, hmem, hp, hselected, rfl⟩

/-- **A group is what the filter of its bucket selects**, and that filter can be found by the key of
the bucket. -/
theorem AggregationKind.Filtering.exists_selection {k : AggregationKind} (hk : k.Filtering)
    {rs : List R} {x : Finding R} (h : k.find E now rs = .ok x) (name : String)
    (timeZone : Option String) :
    ∃ gs limit value, x = .groups gs limit value ∧ ∀ g ∈ gs, ∃ q p,
      k.selection name g.key timeZone = .ok q ∧ q.compile E now = .ok p ∧
        Query.select p rs = .ok g.records := by
  cases hk with
  | @filters fs hsorted =>
    obtain ⟨gs, rfl, hgs⟩ := groups_of_filters h
    refine ⟨gs, none, none, rfl, fun g hg => ?_⟩
    obtain ⟨key, q, p, hmem, hp, hselected, hgroup⟩ := hgs g hg
    rw [hgroup]
    have hfind : Table.find? (Value.str key).toText fs = some q :=
      hsorted.find?_eq_some_iff.2 hmem
    refine ⟨q, p, ?_, hp, hselected⟩
    rw [selection, hfind]
  | missing field =>
    obtain rfl := Except.ok.inj h
    refine ⟨_, _, _, rfl, fun g hg => ?_⟩
    obtain rfl := List.mem_singleton.1 hg
    exact ⟨_, _, rfl, Query.compile_not_exists field, Query.select_eq_filter fun _ _ => rfl⟩

omit [Environment] in
/-- A group that is kept is one of the groups. -/
lemma Group.mem_of_mem_kept {least limit : Option Nat} {gs : List (Group R)} {g : Group R}
    (h : g ∈ kept least limit gs) : g ∈ gs := by
  cases limit with
  | none => exact (List.mem_filter.1 h).1
  | some n => exact (List.mem_filter.1 (List.mem_of_mem_take h)).1

/-- A bucket is a group that is kept, together with the results of the inner aggregations for its
records. -/
lemma Aggregation.exists_kept_of_bucket {a : Aggregation} {rs : List R} {gs : List (Group R)}
    {limit : Option Nat} {value : Option Value}
    (hfind : a.kind.find E now rs = .ok (.groups gs limit value)) {result : AggregationResult}
    (h : a.compute E now rs = .ok result) {bs : List Bucket} (hbs : result.buckets = some bs)
    {b : Bucket} (hb : b ∈ bs) :
    ∃ g ∈ Group.kept a.minDocCount limit gs, ∃ results,
      computeEach E now a.aggs g.records = .ok results ∧ b = g.bucket results := by
  rw [compute_of_groups hfind] at h
  obtain ⟨buckets, hbuckets, rfl⟩ := Sequencing.exists_ok_of_map h
  obtain rfl := Option.some.inj hbs
  obtain ⟨g, hg, hgb⟩ := Sequencing.exists_step hbuckets hb
  obtain ⟨results, hresults, hbucket⟩ := Sequencing.exists_ok_of_map hgb
  exact ⟨g, hg, results, hresults, hbucket.symm⟩

/-- A bucket is a group together with the results of the inner aggregations for its records. -/
lemma Aggregation.exists_results_of_bucket {a : Aggregation} {rs : List R} {gs : List (Group R)}
    {limit : Option Nat} {value : Option Value}
    (hfind : a.kind.find E now rs = .ok (.groups gs limit value)) {result : AggregationResult}
    (h : a.compute E now rs = .ok result) {bs : List Bucket} (hbs : result.buckets = some bs)
    {b : Bucket} (hb : b ∈ bs) :
    ∃ g ∈ gs, ∃ results, computeEach E now a.aggs g.records = .ok results ∧
      b = g.bucket results := by
  obtain ⟨g, hg, hbucket⟩ := exists_kept_of_bucket hfind h hbs hb
  exact ⟨g, Group.mem_of_mem_kept hg, hbucket⟩

/-- A bucket counts the records of a group with its key. -/
lemma Aggregation.exists_group_of_bucket {a : Aggregation} {rs : List R} {gs : List (Group R)}
    {limit : Option Nat} {value : Option Value}
    (hfind : a.kind.find E now rs = .ok (.groups gs limit value)) {result : AggregationResult}
    (h : a.compute E now rs = .ok result) {bs : List Bucket} (hbs : result.buckets = some bs)
    {b : Bucket} (hb : b ∈ bs) : ∃ g ∈ gs, b.key = g.key ∧ b.count = g.records.length := by
  obtain ⟨g, hg, results, -, rfl⟩ := exists_results_of_bucket hfind h hbs hb
  exact ⟨g, hg, rfl, rfl⟩

/-! ## Conjunctions -/

/-- A filter added to a query, if there is one, selects from what the query selects. -/
lemma Query.compile_and_filter {q : Option Query} {sel : Query}
    {p psel : R → Except Error Bool} (hp : (q.getD .matchAll).compile E now = .ok p)
    (hsel : sel.compile E now = .ok psel) :
    ∃ p₂, (Query.and (q.toList ++ [sel])).compile E now = .ok p₂ ∧
      ∀ {rs ms ns : List R}, select p rs = .ok ms → select psel ms = .ok ns →
        select p₂ rs = .ok ns := by
  cases q with
  | none =>
    obtain rfl := Except.ok.inj hp
    refine ⟨fun r => [psel].allM fun p => p r, ?_, fun h h' => select_of_select h h' fun _ _ => rfl⟩
    simp only [Option.toList_none, List.nil_append, compile, compileAll, hsel]
  | some q =>
    replace hp : q.compile E now = .ok p := hp
    refine ⟨fun r => [p, psel].allM fun p => p r, ?_,
      fun h h' => select_of_select h h' fun _ _ => rfl⟩
    simp only [Option.toList_some, List.cons_append, List.nil_append, compile, compileAll, hp, hsel]

/-- The table for one aggregation has its result as the only entry. -/
lemma Aggregation.computeAll_singleton {a : Aggregation} {rs : List R}
    {t : Table AggregationResult} (h : computeAll E now [a] rs = .ok t) :
    ∃ result, a.compute E now rs = .ok result ∧ t = [(a.key, result)] := by
  obtain ⟨results, hresults, rfl⟩ := Sequencing.exists_ok_of_map h
  rw [computeEach_eq_mapM, Sequencing.mapM_cons] at hresults
  cases hresult : a.compute E now rs with
  | error e =>
    rw [hresult] at hresults
    cases hresults
  | ok result =>
    rw [hresult] at hresults
    obtain rfl := Except.ok.inj hresults
    refine ⟨result, rfl, ?_⟩
    rw [← key_of_compute hresult]
    rfl

end Groups

namespace Vocabulary

variable {v : Vocabulary} {name : String} {d : Aggregation}

/-! ## Names -/

/-- A name alone is sent as an aggregation of the kind of its definition. -/
lemma aggregationsOf_named {a : Aggregation} {as' : List Aggregation}
    (hd : Table.find? name v.aggregations = some d) (ha : a.kind = .named name)
    (h : v.aggregationsOf [a] = .ok as') :
    ∃ a', as' = [a'] ∧ a'.key = a.key ∧ a'.kind = d.kind := by
  obtain ⟨key, kind, aggs, extensions, least⟩ := a
  obtain rfl : kind = .named name := ha
  rw [aggregationsOf, Sequencing.mapM_cons] at h
  cases hexpand : v.aggregation ⟨key, .named name, aggs, extensions, least⟩ with
  | error e =>
    rw [hexpand] at h
    cases h
  | ok a' =>
    rw [hexpand] at h
    obtain rfl := Except.ok.inj h
    obtain ⟨d', before, after, hd', -, -, rfl⟩ :=
      Aggregation.expand_named_ok (Sequencing.eq_ok_of_mapError hexpand)
    obtain rfl := Option.some.inj (hd.symm.trans hd')
    exact ⟨_, rfl, rfl, rfl⟩

/-- The name of a bucket is sent as the filter of the bucket. -/
lemma query_named {R : Type} [Environment] {E : Evaluator R} {now : Instant} {key : Value}
    {timeZone : Option String} {sel : Query} {psel : R → Except Error Bool}
    (hqueries : Table.find? name v.queries = none) (hd : Table.find? name v.aggregations = some d)
    (hsel : d.kind.selection name key timeZone = .ok sel)
    (hcompile : sel.compile E now = .ok psel) : v.query timeZone (.named name key) = .ok sel := by
  have hdefinition : v.definition timeZone name key = .ok sel := by
    rw [definition, hqueries, hd]
    exact hsel
  have hmeaning : v.meaning timeZone name key = .ok sel := by
    rw [meaning, hdefinition]
    show sel.expandTexts.mapError NameError.text = _
    rw [Query.expandTexts_of_resolved (Query.resolved_of_compile_ok hcompile)]
    rfl
  refine query_eq_ok_iff.2 ⟨.named name key, rfl, ?_⟩
  show (v.meaning timeZone name key).mapError NameError.toError = _
  rw [hmeaning]
  rfl

/-- What is restored in a result changes neither the keys of buckets nor their counts. -/
lemma exists_bucket_of_restoreResult {a : Aggregation} {result : AggregationResult}
    {bs : List Bucket} (hbs : (v.restoreResult a result).buckets = some bs) {b : Bucket}
    (hb : b ∈ bs) :
    ∃ bs₀, result.buckets = some bs₀ ∧ ∃ b₀ ∈ bs₀, b.key = b₀.key ∧ b.count = b₀.count := by
  have hsame : result.buckets = some bs →
      ∃ bs₀, result.buckets = some bs₀ ∧ ∃ b₀ ∈ bs₀, b.key = b₀.key ∧ b.count = b₀.count :=
    fun h => ⟨bs, h, b, hb, rfl, rfl⟩
  unfold restoreResult at hbs
  split at hbs
  · split at hbs
    · obtain ⟨bs₀, hbs₀, rfl⟩ := Option.map_eq_some_iff.1 hbs
      obtain ⟨b₀, hb₀, rfl⟩ := List.mem_map.1 hb
      exact ⟨bs₀, hbs₀, b₀, hb₀, rfl, rfl⟩
    · exact hsame hbs
    · exact hsame hbs
  · exact hsame hbs

/-- A query with one more part is sent as the query that is sent with what is sent for the part. -/
lemma query_and_part {timeZone : Option String} {q q' : Option Query} {part part' : Query}
    (hq : q.mapM (v.query timeZone) = .ok q') (hpart : v.query timeZone part = .ok part') :
    v.query timeZone (.and (q.toList ++ [part])) = .ok (.and (q'.toList ++ [part'])) := by
  refine query_and ?_
  cases q with
  | none =>
    obtain rfl := Except.ok.inj hq
    rw [Option.toList_none, List.nil_append, Sequencing.mapM_cons, hpart]
    rfl
  | some q =>
    rw [Option.mapM_some] at hq
    obtain ⟨q₁, hq₁, rfl⟩ := Sequencing.exists_ok_of_map hq
    rw [Option.toList_some, List.singleton_append, Sequencing.mapM_cons, hq₁,
      Sequencing.mapM_cons, hpart]
    rfl

/-- **Drilling down.** If a request asks for nothing but a name for filters or for missing values,
every bucket of the answer counts as many records as the store has for the same query together with
the name of that bucket, in no order or any other that sort keys put the records in.

**Proof sketch.** The bucket counts the records of a group, which is what the filter of the bucket
selects from the records of the request. The filter has a predicate, so that it contains no
texts and names, and the named query is sent as this filter. The conjunction that is sent selects
what the filter selects from what the query of the request selects. -/
theorem totalItems_eq_count {R : Type} [Environment] {E : Evaluator R} {now : Instant}
    (hqueries : Table.find? name v.queries = none)
    (hd : Table.find? name v.aggregations = some d) (hkind : d.kind.Filtering)
    {a : Aggregation} (ha : a.kind = .named name) {r r' : SearchRequest} (hr : r.aggs = [a])
    {s s₁ : Store R} {result : SearchResult R}
    (hsearch : (v.decorate (Store.backend E now)).search r s = (.ok result, s₁))
    {found : AggregationResult} (hfound : Table.find? a.key result.aggs = some found)
    {bs : List Bucket} (hbs : found.buckets = some bs) {b : Bucket} (hb : b ∈ bs)
    (hparams : r'.params = r.params)
    (hquery : r'.query = some (.and (r.query.toList ++ [.named name b.key])))
    (haggs : r'.aggs = [])
    (hsorts : Sorting.Sortable (SortKey.compareRecords E (r'.sorts.map v.sortKey)) s.records) :
    ∃ result', (v.decorate (Store.backend E now)).search r' s₁ = (.ok result', s₁) ∧
      result'.totalItems = b.count := by
  obtain ⟨sent, answer, hsent, hanswer, rfl, rfl⟩ := search_decorate_eq_ok_iff.1 hsearch
  obtain ⟨q, as', hq, has', rfl⟩ := request_eq_ok_iff.1 hsent
  rw [hr] at has'
  obtain ⟨a', rfl, hkey, hkind'⟩ := aggregationsOf_named hd ha has'
  obtain ⟨ms, t, ordered, hms, ht, -, rfl⟩ := Store.search_eq_ok_iff.1 hanswer
  obtain ⟨p, hp, hselect⟩ := Store.matching_eq_ok_iff.1 hms
  obtain ⟨computed, hcomputed, rfl⟩ := Aggregation.computeAll_singleton ht
  -- The bucket that is shown is a bucket that was computed, and that is a group.
  have hrestored : found = v.restoreResult a computed := by
    have hself : Table.find? a.key [(a'.key, computed)] = some computed := by
      rw [hkey, Table.find?, if_pos rfl]
    simp only [restore, hr, restoreResults, Store.resultOf, hself] at hfound
    rw [Table.find?_insert, if_pos rfl] at hfound
    exact (Option.some.inj hfound).symm
  rw [hrestored] at hbs
  obtain ⟨bs₀, hbs₀, b₀, hb₀, hbkey, hbcount⟩ := exists_bucket_of_restoreResult hbs hb
  obtain ⟨x, hfind⟩ : ∃ x, a'.kind.find E now ms = .ok x := by
    cases hfind : a'.kind.find E now ms with
    | ok x => exact ⟨x, rfl⟩
    | error e =>
      rw [Aggregation.compute_of_error hfind] at hcomputed
      cases hcomputed
  obtain ⟨gs, limit, value, rfl, hgroups⟩ :=
    (hkind'.symm ▸ hkind).exists_selection hfind name r.timeZone?
  obtain ⟨g, hg, hgkey, hgcount⟩ := Aggregation.exists_group_of_bucket hfind hcomputed hbs₀ hb₀
  obtain ⟨sel, psel, hsel, hpsel, hrecords⟩ := hgroups g hg
  -- The named query is sent as the filter of the group.
  have htimeZone : r'.timeZone? = r.timeZone? := by
    rw [SearchRequest.timeZone?, SearchRequest.timeZone?, hparams]
  have hnamed : v.query r'.timeZone? (.named name b.key) = .ok sel := by
    rw [htimeZone, hbkey, hgkey]
    exact query_named hqueries hd (hkind' ▸ hsel) hpsel
  have hq' : r'.query.mapM (v.query r'.timeZone?) = .ok (some (.and (q.toList ++ [sel]))) := by
    rw [hquery, Option.mapM_some, query_and_part (htimeZone ▸ hq) hnamed]
    rfl
  obtain ⟨p₂, hp₂, hboth⟩ := Query.compile_and_filter hp hpsel
  have hms' := Store.matching_eq_ok_iff.2 ⟨p₂, hp₂, hboth hselect hrecords⟩
  obtain ⟨ordered', hordered, hlength⟩ := SearchRequest.exists_sorted_of_sublist hsorts
    ((Query.select_sublist hrecords).trans (Query.select_sublist hselect))
  have hsent' := request_eq_ok_iff.2 ⟨_, [], hq', by rw [haggs]; rfl, rfl⟩
  refine ⟨_, search_decorate_eq_ok_iff.2 ⟨_, _, hsent',
    Store.search_eq_ok_iff.2 ⟨_, [], ordered', hms', rfl, hordered, rfl⟩, rfl, rfl⟩, ?_⟩
  show ordered'.length = b.count
  rw [hlength, hbcount, hgcount]

/-! ## Customers by tier -/

/-- A vocabulary with a name for the filter that selects the highest tier. -/
def tiers : Vocabulary where
  aggregations :=
    [("tiers", {
      key := "tiers"
      kind := .filters [("top", .leaf "tier" (.term (.str "gold")))] })]

/-- Customers that are nothing but their tier. -/
def customers : Store String := Store.ofList [("1", "gold"), ("2", "iron"), ("3", "gold")]

/-- The tier of a customer, at every path. -/
def tierOf : Evaluator String := fun tier _ => .ok (.str tier)

section Examples

attribute [local instance] Environment.isolated

/-- The bucket of the highest tier counts two customers, and its name finds two. -/
theorem totalItems_of_tiers :
    (tiers.decorate (Store.backend tierOf Instant.earliest)).search
        { aggs := [{ key := "x", kind := .named "tiers" }] } customers =
      (.ok { aggs := [("x", {
               key := "x"
               buckets := some [{
                 key := .str "top"
                 count := 2
                 query := some (.leaf "tier" (.term (.str "gold"))) }] })]
             items := some ["gold", "iron", "gold"]
             totalItems := 3 }, customers) ∧
    ∃ result', (tiers.decorate (Store.backend tierOf Instant.earliest)).search
        { query := some (.and [.named "tiers" (.str "top")]) } customers =
      (.ok result', customers) ∧ result'.totalItems = 2 := by
  refine ⟨rfl, ?_⟩
  exact totalItems_eq_count (v := tiers) (E := tierOf)
    (a := { key := "x", kind := .named "tiers" }) (s := customers)
    (r := { aggs := [{ key := "x", kind := .named "tiers" }] }) rfl rfl
    (.filters (List.pairwise_singleton _ _)) rfl rfl rfl rfl rfl List.mem_cons_self rfl rfl rfl
    (SearchRequest.sortable_nil _ _)

end Examples

end Vocabulary

end Sift
