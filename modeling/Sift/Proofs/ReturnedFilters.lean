import Sift.Proofs.NamedBuckets
import Sift.Proofs.ReadPaths

/-!
# Filters that come back in buckets

A bucket of an aggregation by filters shows its filter. What is shown is in the fields of the
records: a filter of the request has been renamed when it was sent, and the filters of a definition
are written in these fields. A caller who counts with the filter that is shown has it renamed once
more. The count is that of the bucket where the fields of the filter stand for themselves, and it
need not be where a field of the records is also another name.

## Main definitions

* `Sift.Query.FixedBy`: a renaming keeps the fields of a query.
* `Sift.Vocabulary.sentFilters?`: the filters that are sent for an aggregation.

## Main results

* `Sift.Query.rename_eq_self`: a renaming that keeps the fields of a query keeps the query.
* `Sift.Query.exists_compile_rename`: a renamed query has a predicate if the query has one.
* `Sift.Vocabulary.count_of_returned_filter`: what the filter of a bucket counts.
-/

set_option autoImplicit false

namespace Sift

/-! ## Queries with other fields -/

namespace Query

/-- The renaming keeps all fields of the query. -/
def FixedBy (f : String → String) (q : Query) : Prop :=
  ∀ l ∈ q.leaves, ∀ field ∈ l.field?, f field = field

instance (f : String → String) (q : Query) : Decidable (q.FixedBy f) :=
  inferInstanceAs (Decidable (∀ l ∈ q.leaves, ∀ field ∈ l.field?, f field = field))

/-- A renaming that keeps the fields of a query keeps the query. -/
theorem rename_eq_self {f : String → String} {q : Query} (h : q.FixedBy f) : q.rename f = q := by
  induction q using Query.induction with
  | and of ih | or of ih | not of ih =>
    have hof : of.map (rename f) = of.map id := List.map_congr_left fun q hq =>
      ih q hq fun l hl => h l (by simpa [leaves] using ⟨q, hq, hl⟩)
    rw [rename, renameAll_eq_map, hof, List.map_id]
  | leaf field c =>
    have hfield : f field = field := h (leaf field c) List.mem_cons_self field rfl
    rw [rename, hfield]
  | text _ _ | named _ _ | matchAll => rfl

variable {R : Type} [Environment] {E E' : Evaluator R} {now : Instant}

/-- Whether a query has a predicate does not depend on where its fields are looked up. -/
lemma exists_compile_of_compile_ok {q : Query} {p : R → Except Error Bool}
    (h : q.compile E now = .ok p) :
    ∃ p', q.compile E' now = .ok p' := by
  induction q using Query.induction generalizing p with
  | and of ih | or of ih | not of ih =>
    have hof : ∃ ps, of.mapM (compile E now) = .ok ps := by
      cases hps : of.mapM (compile E now) with
      | ok ps => exact ⟨ps, rfl⟩
      | error e =>
        rw [compile, compileAll_eq_mapM, hps] at h
        cases h
    obtain ⟨ps', hps'⟩ : ∃ ps', of.mapM (compile E' now) = .ok ps' := by
      refine Sequencing.exists_ok_mapM_iff.2 fun q hq => ?_
      obtain ⟨p, hp⟩ := Sequencing.exists_ok_mapM_iff.1 hof q hq
      exact ih q hq hp
    rw [compile, compileAll_eq_mapM, hps']
    exact ⟨_, rfl⟩
  | leaf field c =>
    rw [compile] at h ⊢
    cases hc : c.compile now with
    | ok test => exact ⟨_, rfl⟩
    | error e =>
      rw [hc] at h
      cases h
  | matchAll => exact ⟨_, rfl⟩
  | text _ _ | named _ _ => cases h

/-- A query with other fields has a predicate if the query has one. -/
theorem exists_compile_rename (f : String → String) {q : Query} {p : R → Except Error Bool}
    (h : q.compile E now = .ok p) : ∃ p', (q.rename f).compile E now = .ok p' := by
  rw [compile_rename]
  exact exists_compile_of_compile_ok h

end Query

namespace Vocabulary

variable {R : Type} [Environment] {E : Evaluator R} {now : Instant} {v : Vocabulary}

/-! ## What is sent -/

/-- A query without texts and names is counted with other fields. -/
lemma count_of_resolved {q : Query} (hq : q.Resolved) {p : R → Except Error Bool}
    (hp : (q.rename v.fieldName).compile E now = .ok p) (s : Store R) :
    (v.decorate (Store.backend E now)).count q s =
      ((Query.select p s.records).map List.length, s) := by
  show v.askWith (Store.backend E now).count q s = _
  rw [askWith, query_of_resolved hq]
  show (Store.backend E now).count (q.rename v.fieldName) s = _
  rw [Store.count_backend, Store.search_pageOf, Store.matching, hp]
  dsimp only
  cases Query.select p s.records <;> rfl

/-- The filters that are sent for an aggregation by filters, or for the name of one. -/
def sentFilters? (v : Vocabulary) (a : Aggregation) : Option (List (String × Query)) :=
  match a.kind with
  | .filters fs => some (fs.map fun e => (e.1, e.2.rename v.fieldName))
  | .named name =>
    match (Table.find? name v.aggregations).map Aggregation.kind with
    | some (.filters fs) => some fs
    | _ => none
  | .onField _ _ => none

omit [Environment] in
/-- Filters are sent for an aggregation by filters and for the name of one. -/
lemma sentFilters?_cases {a : Aggregation} {fs : List (String × Query)}
    (hfs : v.sentFilters? a = some fs) :
    (∃ fs₀, a.kind = .filters fs₀ ∧ fs = fs₀.map fun e => (e.1, e.2.rename v.fieldName)) ∨
      ∃ name d, a.kind = .named name ∧ Table.find? name v.aggregations = some d ∧
        d.kind = .filters fs := by
  unfold sentFilters? at hfs
  split at hfs
  · rename_i fs₀ hk
    exact .inl ⟨fs₀, hk, (Option.some.inj hfs).symm⟩
  · rename_i name hk
    split at hfs
    · rename_i fs' hd
      obtain ⟨d, hd, hdk⟩ := Option.map_eq_some_iff.1 hd
      exact .inr ⟨name, d, hk, hd, hdk.trans (congrArg _ (Option.some.inj hfs))⟩
    · cases hfs
  · cases hfs

omit [Environment] in
/-- What is sent for an aggregation with filters is of the kind of these filters. -/
lemma kind_of_sentFilters {a a' : Aggregation} {fs : List (String × Query)}
    (hfs : v.sentFilters? a = some fs) (h : v.aggregation a = .ok a') : a'.kind = .filters fs := by
  obtain ⟨fs₀, hk, rfl⟩ | ⟨name, d, hk, hd, hdk⟩ := sentFilters?_cases hfs
  · obtain ⟨key, kind, aggs, extensions, least⟩ := a
    obtain rfl : kind = .filters fs₀ := hk
    obtain ⟨aggs', -, rfl⟩ := Aggregation.expand_other_ok
      (by simp [Aggregation.rename, AggregationKind.rename]) (Sequencing.eq_ok_of_mapError h)
    rfl
  · rw [kind_of_aggregation_named hd hk h, hdk]

/-! ## What comes back -/

/-- A bucket of filters is formed by one of them. -/
lemma exists_filter_of_computed {a' : Aggregation} {fs : List (String × Query)}
    (hkind : a'.kind = .filters fs) {rs : List R} {computed : AggregationResult}
    (hcompute : a'.compute E now rs = .ok computed) {bs : List Bucket}
    (hbs : computed.buckets = some bs) {b : Bucket} (hb : b ∈ bs) :
    ∃ key q p ms, (key, q) ∈ fs ∧ b.key = .str key ∧ b.query = some q ∧
      q.compile E now = .ok p ∧ Query.select p rs = .ok ms ∧ b.count = ms.length := by
  obtain ⟨gs, limit, value, hfind⟩ := exists_groups_of_buckets hcompute hbs
  obtain ⟨gs', hgs', hgroups⟩ := AggregationKind.groups_of_filters (hkind ▸ hfind)
  cases hgs'
  obtain ⟨g, hg, results, -, rfl⟩ := Aggregation.exists_results_of_bucket hfind hcompute hbs hb
  obtain ⟨key, q, p, hmem, hp, hselect, hgroup⟩ := hgroups g hg
  exact ⟨key, q, p, g.records, hmem, congrArg Group.key hgroup, congrArg Group.query hgroup, hp,
    hselect, rfl⟩

/-- What is restored in a bucket of filters is the filter that formed it. -/
lemma exists_filter_of_bucket {a a' : Aggregation} {fs : List (String × Query)}
    (hfs : v.sentFilters? a = some fs) (hsorted : Table.Sorted fs)
    (hkind : a'.kind = .filters fs) {rs : List R} {computed : AggregationResult}
    (hcompute : a'.compute E now rs = .ok computed) {bs : List Bucket}
    (hbs : (v.restoreResult a computed).buckets = some bs) {b : Bucket} (hb : b ∈ bs) :
    ∃ key q p ms, (key, q) ∈ fs ∧ b.key = .str key ∧ b.query = some q ∧
      q.compile E now = .ok p ∧ Query.select p rs = .ok ms ∧ b.count = ms.length := by
  obtain ⟨fs₀, hk, -⟩ | ⟨name, d, hk, hd, hdk⟩ := sentFilters?_cases hfs
  · have hrestore : v.restoreResult a computed = computed := by simp only [restoreResult, hk]
    exact exists_filter_of_computed hkind hcompute (hrestore ▸ hbs) hb
  · have hrestore : v.restoreResult a computed = restoreFilters fs computed := by
      simp only [restoreResult, hk, hd, Option.map_some, hdk]
    rw [hrestore] at hbs
    obtain ⟨bs₀, hbs₀, rfl⟩ := Option.map_eq_some_iff.1 hbs
    obtain ⟨b₀, hb₀, rfl⟩ := List.mem_map.1 hb
    obtain ⟨key, q, p, ms, hmem, hkey, -, hp, hselect, hcount⟩ :=
      exists_filter_of_computed hkind hcompute hbs₀ hb₀
    -- The key of the bucket is the name of no other filter.
    have hfind : Table.find? b₀.key.toText fs = some q := by
      rw [hkey]
      exact hsorted.find?_eq_some_iff.2 hmem
    exact ⟨key, q, p, ms, hmem, hkey, hfind, hp, hselect, hcount⟩

/-- **What the filter of a bucket counts.** If a request without a query asks for filters, or for
the name of filters, every bucket of the answer shows one of the filters that were sent, counts what
this filter selects, and the caller can count with it. The count is what the filter selects when its
fields are renamed once more, unless a record breaks this off. It is the count of the bucket if all
fields of the filter stand for themselves; and a filter of the request itself has the count of its
bucket in any case.

**Proof sketch.** The bucket is a group of the records of the store, formed by a filter that was
sent, and the filter of that name is put into it. A filter that was computed has no texts and no
names, so that nothing but a renaming happens to it, and a renamed query has a predicate if the
query has one. -/
theorem count_of_returned_filter {r : SearchRequest} (hquery : r.query = none) {a : Aggregation}
    (ha : a ∈ r.aggs) (honly : ∀ b ∈ r.aggs, b.key = a.key → b = a)
    {fs : List (String × Query)} (hfs : v.sentFilters? a = some fs) (hsorted : Table.Sorted fs)
    {s s₁ : Store R} {result : SearchResult R}
    (hsearch : (v.decorate (Store.backend E now)).search r s = (.ok result, s₁))
    {found : AggregationResult} (hfound : Table.find? a.key result.aggs = some found)
    {bs : List Bucket} (hbs : found.buckets = some bs) {b : Bucket} (hb : b ∈ bs) :
    s₁ = s ∧ ∃ key q p p' ms, (key, q) ∈ fs ∧ b.key = .str key ∧ b.query = some q ∧
      q.compile E now = .ok p ∧ Query.select p s.records = .ok ms ∧ b.count = ms.length ∧
      (q.rename v.fieldName).compile E now = .ok p' ∧
      (v.decorate (Store.backend E now)).count q s =
        ((Query.select p' s.records).map List.length, s) ∧
      (q.FixedBy v.fieldName →
        (v.decorate (Store.backend E now)).count q s = (.ok b.count, s)) ∧
      ∀ fs₀ q₀, a.kind = .filters fs₀ → (key, q₀) ∈ fs₀ →
        (v.decorate (Store.backend E now)).count q₀ s = (.ok b.count, s) := by
  obtain ⟨sent, answer, hsent, hanswer, rfl, rfl⟩ := search_decorate_eq_ok_iff.1 hsearch
  obtain ⟨q', as', hq', has', rfl⟩ := request_eq_ok_iff.1 hsent
  obtain ⟨rs, t, ordered, hrs, ht, -, rfl⟩ := Store.search_eq_ok_iff.1 hanswer
  obtain ⟨pall, hpall, hselected⟩ := Store.matching_eq_ok_iff.1 hrs
  -- Without a query all records are aggregated.
  rw [hquery] at hq'
  obtain rfl := Except.ok.inj hq'
  obtain rfl := Except.ok.inj hpall
  obtain rfl := Except.ok.inj ((Query.select_true s₁.records).symm.trans hselected)
  -- The result was computed by what was sent for the aggregation.
  obtain ⟨a₁, ha₁, hkey₁, computed, hcomputed, hrestored⟩ :=
    exists_of_mem_restoreResults (Table.mem_of_find? hfound)
  obtain rfl := honly a₁ ha₁ hkey₁
  obtain ⟨a', ha', hkey', hcompute⟩ := Aggregation.exists_of_mem_computeAll ht hcomputed
  obtain ⟨a₂, ha₂, hexpand⟩ := Sequencing.exists_step has' ha'
  obtain rfl := honly a₂ ha₂ ((key_of_aggregation hexpand).symm.trans hkey')
  replace hrestored : found = _ := hrestored
  rw [hrestored] at hbs
  obtain ⟨key, q, p, ms, hmem, hkey, hq, hp, hselect, hcount⟩ :=
    exists_filter_of_bucket hfs hsorted (kind_of_sentFilters hfs hexpand) hcompute hbs hb
  have hresolved : q.Resolved := Query.resolved_of_compile_ok hp
  obtain ⟨p', hp'⟩ := Query.exists_compile_rename v.fieldName hp
  have hlength : ((Query.select p s₁.records).map List.length, s₁) = (.ok b.count, s₁) := by
    rw [hselect, hcount]
    rfl
  refine ⟨rfl, key, q, p, p', ms, hmem, hkey, hq, hp, hselect, hcount, hp',
    count_of_resolved hresolved hp' s₁, fun hfixed => ?_, fun fs₀ q₀ hk hmem₀ => ?_⟩
  · rw [← hlength]
    exact count_of_resolved hresolved (by rwa [Query.rename_eq_self hfixed]) s₁
  · -- The filter of the request is sent as the filter that is shown.
    rw [sentFilters?, hk] at hfs
    obtain rfl := Option.some.inj hfs
    obtain rfl : q = q₀.rename v.fieldName :=
      hsorted.eq_of_mem hmem (List.mem_map.2 ⟨(key, q₀), hmem₀, rfl⟩)
    rw [← hlength]
    exact count_of_resolved ((Query.resolved_rename _ q₀).1 hresolved) hp s₁

end Vocabulary

/-! ## Tickets by level -/

namespace Vocabulary

/-- A vocabulary in which the tier of a ticket is its level. -/
def levels : Vocabulary where
  aliases := [("level", { name := some "tier" })]

/-- The same vocabulary with the name of the tier for something else. -/
def ranks : Vocabulary where
  aliases := [("level", { name := some "tier" }), ("tier", { name := some "amount" })]

/-- The tickets of the highest level. -/
def topLevel : Aggregation where
  key := "levels"
  kind := .filters [("top", .leaf "level" (.term (.str "gold")))]

section Examples

attribute [local instance] Environment.isolated

/-- The tier stands for itself, and its filter counts the three tickets of its bucket. -/
theorem count_of_levels :
    ∃ result, (levels.decorate (Store.backend Store.ticketField Instant.earliest)).search
        { aggs := [topLevel] } Store.tickets = (.ok result, Store.tickets) ∧
      Table.find? "levels" result.aggs = some {
        key := "levels"
        buckets := some [{
          key := .str "top", count := 3, query := some (.leaf "tier" (.term (.str "gold"))) }] } ∧
      (levels.decorate (Store.backend Store.ticketField Instant.earliest)).count
        (.leaf "tier" (.term (.str "gold"))) Store.tickets = (.ok 3, Store.tickets) := by
  have hfs : levels.sentFilters? topLevel = some [("top", .leaf "tier" (.term (.str "gold")))] :=
    rfl
  refine ⟨_, rfl, rfl, ?_⟩
  obtain ⟨-, key, q, p, p', ms, -, -, hq, -, -, -, -, -, hfixed, -⟩ := count_of_returned_filter
    (E := Store.ticketField) (r := { aggs := [topLevel] }) (s := Store.tickets)
    (b := { key := .str "top", count := 3, query := some (.leaf "tier" (.term (.str "gold"))) })
    rfl List.mem_cons_self (fun _ h _ => List.mem_singleton.1 h) hfs (List.pairwise_singleton _ _)
    rfl rfl rfl List.mem_cons_self
  obtain rfl := Option.some.inj hq
  exact hfixed (by decide)

/-- The tier is also a name for the amount, and the filter of the bucket of three tickets finds
none. -/
theorem count_of_ranks :
    ∃ result, (ranks.decorate (Store.backend Store.ticketField Instant.earliest)).search
        { aggs := [topLevel] } Store.tickets = (.ok result, Store.tickets) ∧
      Table.find? "levels" result.aggs = some {
        key := "levels"
        buckets := some [{
          key := .str "top", count := 3, query := some (.leaf "tier" (.term (.str "gold"))) }] } ∧
      (ranks.decorate (Store.backend Store.ticketField Instant.earliest)).count
        (.leaf "tier" (.term (.str "gold"))) Store.tickets = (.ok 0, Store.tickets) :=
  ⟨_, rfl, rfl, rfl⟩

end Examples

end Vocabulary

end Sift
