import Sift.Proofs.Decoration
import Sift.Proofs.Expansion
import Sift.Proofs.FieldRenaming

/-!
# Searching by aliases

A vocabulary whose aliases give other names to fields, and nothing else, is transparent: a request
in its words has the answer that the store itself gives where the evaluator looks up the field that
a path stands for. The queries, the order, the columns and the aggregations of a request are each
renamed by a pass of their own, and every pass replaces each field once.

## Main definitions

* `Sift.Vocabulary.NamesFields`: every alias has a name and no expression.
* `Sift.SearchRequest.Literal`: a request without texts and without names of queries, aggregations
  and lists of columns.
* `Sift.SearchResult.mapQueries`: a result with another form of the filters in its buckets.

## Main results

* `Sift.Vocabulary.request_of_literal`: what is sent for a request without names is its renaming.
* `Sift.Vocabulary.search_decorate_eq`: aliases are transparent to searches.
-/

set_option autoImplicit false

namespace Sift

/-! ## Requests and results -/

/-- The request says what it wants without texts and names: its query has none of them, no
aggregation at any depth is a name, and there is no name for its columns, each of which has a
path. -/
structure SearchRequest.Literal (r : SearchRequest) : Prop where
  /-- The query has neither texts nor names. -/
  query : ∀ q, r.query = some q → q.Resolved
  /-- No aggregation at any depth is a name. -/
  aggs : ∀ a ∈ r.aggs, a.Unnamed
  /-- The columns have no name. -/
  fieldSet : r.fieldSet = none
  /-- Every column has a path. -/
  fields : ∀ f ∈ r.fields, f.name.isSome

/-- The result with another form of the filters that its buckets show, at every depth. -/
def SearchResult.mapQueries {T : Type} (f : Query → Query) (r : SearchResult T) : SearchResult T :=
  { r with aggs := Table.mapValues (AggregationResult.mapQueries f) r.aggs }

namespace Vocabulary

/-- Every alias gives another name to a field: it has a name and no expression. -/
def NamesFields (v : Vocabulary) : Prop := ∀ e ∈ v.aliases, e.2.name.isSome ∧ e.2.expr = none

variable {v : Vocabulary} {R : Type} {E : Evaluator R}

/-! ## The way in -/

/-- The path of a column is the field that its name stands for. -/
lemma path?_column (hv : v.NamesFields) {f : Field} (hf : f.name.isSome) :
    (v.column f).path? = f.path?.map v.fieldName := by
  obtain ⟨name, hname⟩ := Option.isSome_iff_exists.1 hf
  have hpath : f.path? = some name := by rw [Field.path?, hname, Option.some_or]
  rw [hpath, Option.map_some, column, fieldName, hname]
  cases ha : Table.find? name v.aliases with
  | none => simp [ha, hpath]
  | some a =>
    have hsome : a.name.isSome := (hv _ (Table.mem_of_find? ha)).1
    obtain ⟨target, htarget⟩ := Option.isSome_iff_exists.1 hsome
    simp [ha, Field.path?, htarget]

/-- The field of a sort key is the field that it stands for. -/
lemma sortKey_of_namesFields (hv : v.NamesFields) (s : SortKey) :
    v.sortKey s = { s with field := v.fieldName s.field } := by
  rw [sortKey, fieldName]
  cases ha : Table.find? s.field v.aliases with
  | none => rfl
  | some a =>
    have hexpr : a.expr = none := (hv _ (Table.mem_of_find? ha)).2
    simp [hexpr]

/-- What is sent for a request without names is the request with other fields. -/
theorem request_of_literal {r : SearchRequest} (hr : r.Literal) :
    v.request r = .ok { r with
      query := r.query.map (Query.rename v.fieldName)
      fields := r.fields.map v.column
      fieldSet := none
      sorts := r.sorts.map v.sortKey
      aggs := r.aggs.map (Aggregation.rename v.fieldName) } := by
  have hquery : r.query.mapM (v.query r.timeZone?) =
      .ok (r.query.map (Query.rename v.fieldName)) := by
    cases hq : r.query with
    | none => rfl
    | some q =>
      rw [Option.mapM_some, query_of_resolved (hr.query q hq)]
      rfl
  have hcolumns : v.columns r.fields r.fieldSet = r.fields.map v.column := by
    rw [columns, hr.fieldSet]
    simp
  rw [request, hquery, aggregationsOf_of_unnamed hr.aggs, hcolumns, hr.fieldSet]
  rfl

/-! ## The store -/

/-- The order depends on the directions of the sort keys only. -/
lemma compareAll_sortKey (sorts : List SortKey) (as bs : List Value) :
    SortKey.compareAll (sorts.map v.sortKey) as bs = SortKey.compareAll sorts as bs := by
  induction sorts generalizing as bs with
  | nil => rfl
  | cons s rest ih =>
    cases as with
    | nil => rfl
    | cons a as =>
      cases bs with
      | nil => rfl
      | cons b bs =>
        rw [List.map_cons, SortKey.compareAll, SortKey.compareAll, ih]
        rfl

/-- Records are put in the order of the fields that the sort keys stand for. -/
lemma sorted_sortKey [Environment] (hv : v.NamesFields) (sorts : List SortKey) (rs : List R) :
    SearchRequest.sorted E (sorts.map v.sortKey) rs =
      SearchRequest.sorted (E.rename v.fieldName) sorts rs := by
  have hvalues : SearchRequest.sortValues E (sorts.map v.sortKey) =
      SearchRequest.sortValues (E.rename v.fieldName) sorts := by
    funext r
    rw [SearchRequest.sortValues, SearchRequest.sortValues, List.map_map]
    refine List.map_congr_left fun s _ => ?_
    show E.extractValue r (v.sortKey s).field = _
    rw [sortKey_of_namesFields hv]
    rfl
  simp only [SearchRequest.sorted, hvalues, compareAll_sortKey, List.isEmpty_map]

/-- The row of the columns that are sent has the fields that the columns stand for. -/
lemma row_column (hv : v.NamesFields) {fields : List Field} (hf : ∀ f ∈ fields, f.name.isSome)
    (r : R) :
    SearchRequest.row E (fields.map v.column) r =
      SearchRequest.row (E.rename v.fieldName) fields r := by
  rw [SearchRequest.row, SearchRequest.row, List.map_map]
  refine List.map_congr_left fun f hmem => ?_
  simp only [Function.comp_apply, path?_column hv (hf f hmem)]
  cases f.path? <;> rfl

/-- The page for a request in the fields of the records. -/
lemma resultOf_of_literal (hv : v.NamesFields) {r : SearchRequest} (hr : r.Literal)
    {sent : SearchRequest} (hsent : v.request r = .ok sent) (t : Table AggregationResult)
    (ordered : List R) :
    Store.resultOf E sent t ordered =
      { Store.resultOf (E.rename v.fieldName) r t ordered with fields := sent.fields } := by
  obtain rfl := Except.ok.inj ((request_of_literal hr).symm.trans hsent)
  have hrow : SearchRequest.row E (r.fields.map v.column) =
      SearchRequest.row (E.rename v.fieldName) r.fields :=
    funext fun x => row_column hv hr.fields x
  simp only [Store.resultOf, SearchRequest.page, hrow, List.isEmpty_map]

/-! ## The way out -/

/-- What is under a key of the restored results, where nobody asked for a name. -/
lemma find?_restoreResults {as : List Aggregation} (h : ∀ a ∈ as, a.Unnamed) (key : String)
    (t : Table AggregationResult) :
    Table.find? key (v.restoreResults as t) =
      if key ∈ as.map Aggregation.key then Table.find? key t else none := by
  induction as generalizing t with
  | nil => rfl
  | cons a rest ih =>
    have hrest : ∀ b ∈ rest, b.Unnamed := fun b hb => h b (List.mem_cons_of_mem a hb)
    have hkind : ∀ name, a.kind ≠ .named name := (a.unnamed_iff.1 (h a List.mem_cons_self)).1
    have hrestore : ∀ result, v.restoreResult a result = result := by
      intro result
      rw [restoreResult]
      cases hk : a.kind with
      | named name => exact absurd hk (hkind name)
      | onField _ _ | filters _ => rfl
    rw [restoreResults, List.map_cons]
    cases hfind : Table.find? a.key t with
    | none =>
      simp only [ih hrest]
      by_cases hkey : key = a.key
      · subst hkey
        simp [hfind]
      · simp [hkey]
    | some result =>
      simp only [hrestore, Table.find?_insert, ih hrest, Table.find?_erase]
      by_cases hkey : key = a.key
      · subst hkey
        simp [hfind]
      · simp [hkey]

/-- Restored results are in the order of their keys. -/
lemma sorted_restoreResults (as : List Aggregation) (t : Table AggregationResult) :
    Table.Sorted (v.restoreResults as t) := by
  induction as generalizing t with
  | nil => exact Table.sorted_nil
  | cons a rest ih =>
    rw [restoreResults]
    split
    · exact Table.sorted_insert (ih _) _ _
    · exact ih t

/-- Results of aggregations without names are handed out as they are. -/
lemma restoreResults_eq_self {as : List Aggregation} (h : ∀ a ∈ as, a.Unnamed)
    {t : Table AggregationResult} (ht : Table.Sorted t)
    (hkeys : ∀ e ∈ t, e.1 ∈ as.map Aggregation.key) : v.restoreResults as t = t := by
  refine Table.Sorted.ext (sorted_restoreResults as t) ht fun key => ?_
  rw [find?_restoreResults h]
  split
  · rfl
  · rename_i hkey
    cases hfind : Table.find? key t with
    | none => rfl
    | some result => exact absurd (hkeys _ (Table.mem_of_find? hfind)) hkey

/-! ## Searching -/

section Searching

variable [Environment]

/-- The query that is sent selects what the query of a request selects by renamed fields. -/
lemma matching_rename (s : Store R) (E : Evaluator R) (now : Instant) (q : Option Query) :
    s.matching E now ((q.map (Query.rename v.fieldName)).getD .matchAll) =
      s.matching (E.rename v.fieldName) now (q.getD .matchAll) := by
  have hquery : ((q.map (Query.rename v.fieldName)).getD .matchAll).compile E now =
      (q.getD .matchAll).compile (E.rename v.fieldName) now := by
    rw [← Query.compile_rename]
    cases q <;> rfl
  rw [Store.matching, Store.matching, hquery]

/-- **Transparency.** With aliases that name fields, a request without texts and names has the
answer that the store gives where every path is looked up as the field that it stands for: the same
failure, or the same records, rows, number of records, columns and results. Only the filters in the
buckets of the results show the names of the fields instead of their aliases.

**Proof sketch.** What is sent is the request with other fields. Its query selects the same
records, so that its aggregations are computed for the same records and its page is the same, as
each sort key and each column looks up the same path. Nothing is restored but the columns. -/
theorem search_decorate_eq (hv : v.NamesFields) {r : SearchRequest} (hr : r.Literal)
    (E : Evaluator R) (now : Instant) :
    (v.decorate (Store.backend E now)).search r =
      (fun answer => answer.map (SearchResult.mapQueries (Query.rename v.fieldName))) <$>
        (Store.backend (E.rename v.fieldName) now).search r := by
  funext s
  rw [search_decorate]
  show _ = ((s.search (E.rename v.fieldName) now r).map _, s)
  refine congrArg (fun answer => (answer, s)) ?_
  have hrequest := request_of_literal (v := v) hr
  rw [hrequest]
  show (s.search E now _).map (v.restore r) = _
  rw [Store.search, Store.search, matching_rename]
  cases s.matching (E.rename v.fieldName) now (r.query.getD .matchAll) with
  | error e => rfl
  | ok matched =>
    dsimp only
    rw [Aggregation.computeAll_rename, sorted_sortKey hv]
    cases ht : Aggregation.computeAll (E.rename v.fieldName) now r.aggs matched with
    | error e => rfl
    | ok t =>
      obtain ⟨hsorted, hkeys⟩ := Aggregation.computeAll_table ht
      have hrestored : v.restoreResults r.aggs
          (Table.mapValues (AggregationResult.mapQueries (Query.rename v.fieldName)) t) =
          Table.mapValues (AggregationResult.mapQueries (Query.rename v.fieldName)) t := by
        refine restoreResults_eq_self hr.aggs (hsorted.mapValues _) fun e he => ?_
        obtain ⟨e', he', rfl⟩ := List.mem_map.1 he
        exact hkeys e' he'
      cases SearchRequest.sorted (E.rename v.fieldName) r.sorts matched with
      | error e => rfl
      | ok ordered =>
        refine congrArg Except.ok ?_
        rw [resultOf_of_literal hv hr hrequest, restore, SearchResult.mapQueries]
        simp only [Store.resultOf, hrestored]

end Searching

/-! ## A name for an address -/

/-- A vocabulary with a short name for an address. -/
def mailbox : Vocabulary where
  aliases := [("mail", { name := some "contact.email" })]

/-- Everyone with an address: the addresses in their order, and how often each of them occurs, with
those that are missing a name among them. -/
def everyAddress : SearchRequest where
  query := some (.exists "mail")
  fields := [{ name := some "mail" }]
  sorts := [{ field := "mail" }]
  aggs := [{
    key := "addresses"
    kind := .onField "mail" (.terms none none none none)
    aggs := [{ key := "nameless", kind := .filters [("none", .not [.exists "name"])] }] }]

section Examples

attribute [local instance] Environment.isolated

/-- The short name is transparent to the request. -/
theorem search_decorate_mailbox :
    mailbox.NamesFields ∧ everyAddress.Literal ∧
      (mailbox.decorate (Store.backend Evaluator.json Instant.earliest)).search
          everyAddress =
        (fun answer => answer.map (SearchResult.mapQueries (Query.rename mailbox.fieldName))) <$>
          (Store.backend (Evaluator.rename Evaluator.json mailbox.fieldName)
            Instant.earliest).search everyAddress := by
  have hv : mailbox.NamesFields := by
    intro e he
    obtain rfl := List.mem_singleton.1 he
    exact ⟨rfl, rfl⟩
  have hr : everyAddress.Literal := by
    refine ⟨fun q hq => ?_, fun a ha k hk name => ?_, rfl, fun f hf => ?_⟩
    · obtain rfl := Option.some.inj hq
      decide
    · obtain rfl := List.mem_singleton.1 ha
      simp only [Aggregation.kinds, Aggregation.kindsAll, List.append_nil, List.mem_cons,
        List.not_mem_nil, or_false] at hk
      rcases hk with rfl | rfl <;> intro h <;> cases h
    · obtain rfl := List.mem_singleton.1 hf
      rfl
  exact ⟨hv, hr, search_decorate_eq hv hr Evaluator.json Instant.earliest⟩

end Examples

end Vocabulary

end Sift
