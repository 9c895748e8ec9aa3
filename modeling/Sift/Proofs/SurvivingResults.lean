import Sift.Proofs.Computability
import Sift.Proofs.ExpressibleGroups
import Sift.Proofs.NamedBuckets
import Sift.Proofs.ReadPaths

/-!
# Which search results survive

The answer of a store of documents comes back as it was when it is sent, exactly if a document can
say the results of the aggregations at every depth. Records, rows and totals always can be said. A
result of an aggregation can, too, unless its kind computes with numbers: sums, means and the ends
of intervals need not be finite, because a text of a record may be that of an infinity and because
large numbers have no finite sum, and there are neither corners nor a mean without places.

## Main results

* `Sift.Aggregation.exists_reached_of_within`: every result at any depth is computed.
* `Sift.Aggregation.expressible_of_compute`: the results that a document can say.
* `Sift.Store.search_survives_iff`: the answers that survive.
* `Sift.Store.burst_lost`: an answer that does not.
-/

set_option autoImplicit false

namespace Sift

open Json (Survives)

/-! ## Results at every depth -/

namespace Aggregation

variable {R : Type} [Environment] {E : Evaluator R} {now : Instant}

/-- **Every result at any depth is computed**: by an aggregation that the computation meets, for the
records that it is met with. -/
theorem exists_reached_of_within {x result : AggregationResult} (hx : x.Within result)
    {a : Aggregation} {rs : List R} (h : a.compute E now rs = .ok result) :
    ∃ b rs', Reaches E now a rs b rs' ∧ b.compute E now rs' = .ok x := by
  induction hx generalizing a rs with
  | here => exact ⟨a, rs, .here a rs, h⟩
  | inside hbs hb he _ ih =>
    obtain ⟨gs, limit, value, hfind⟩ := Vocabulary.exists_groups_of_buckets h hbs
    obtain ⟨g, hg, results, hresults, rfl⟩ := exists_kept_of_bucket hfind h hbs hb
    have ht : computeAll E now a.aggs g.records = .ok (AggregationResult.tabulate results) := by
      rw [computeAll, hresults]
      rfl
    obtain ⟨c, hc, -, hcompute⟩ := exists_of_mem_computeAll ht he
    obtain ⟨b, rs', hreaches, hb⟩ := ih hcompute
    exact ⟨b, rs', .within hfind hg hc hreaches, hb⟩

/-- A computation meets an aggregation with some of the records. -/
lemma Reaches.sublist {a b : Aggregation} {rs rs' : List R} (h : Reaches E now a rs b rs') :
    rs'.Sublist rs := by
  induction h with
  | here a rs => exact List.Sublist.refl rs
  | within hfind hg _ _ ih =>
    exact ih.trans (AggregationKind.sublist_of_find hfind (Group.mem_of_mem_kept hg))

/-- **A document can say what an aggregation computes**, the results inside buckets apart, if it can
say the values of the records and what is copied from the request, and if what is computed with
numbers is finite. -/
theorem expressible_of_compute {a : Aggregation} {rs : List R} (hrs : ∀ r ∈ rs, E.Says r)
    (hsize : rs.length < UInt64.size) (hliterals : a.kind.LiteralsExpressible)
    (hfinite : a.kind.MeasuresFinite E rs) {x : AggregationResult}
    (h : a.compute E now rs = .ok x) : x.Expressible := by
  cases hfind : a.kind.find E now rs with
  | error e =>
    rw [compute_of_error hfind] at h
    cases h
  | ok found =>
    have hfound : found.Expressible :=
      AggregationKind.expressible_of_find hrs hliterals hfinite hfind
    cases found with
    | figures s =>
      cases a
      rw [compute, hfind] at h
      obtain rfl := Except.ok.inj h
      exact ⟨fun s' hs => Option.some.inj hs ▸ hfound, fun v hv => (by cases hv),
        fun bs hbs => by cases hbs⟩
    | single v =>
      cases a
      rw [compute, hfind] at h
      obtain rfl := Except.ok.inj h
      exact ⟨fun s hs => (by cases hs), fun v' hv => Option.some.inj hv ▸ hfound,
        fun bs hbs => by cases hbs⟩
    | groups gs limit value =>
      have hbuckets : ∀ bs ∈ x.buckets, ∀ b ∈ bs, b.Expressible := by
        intro bs hbs b hb
        obtain ⟨g, hg, results, -, rfl⟩ := exists_results_of_bucket hfind h hbs hb
        have hrecords : g.records.Sublist rs := AggregationKind.sublist_of_find hfind hg
        exact
          { key := (hfound.1 g hg).key
            count := Nat.lt_of_le_of_lt hrecords.length_le hsize
            stats := fun s hs => by cases hs
            sorted := Table.sorted_ofList _
            query := (hfound.1 g hg).query
            lower := (hfound.1 g hg).lower
            upper := (hfound.1 g hg).upper }
      rw [compute_of_groups hfind] at h
      obtain ⟨bs, -, rfl⟩ := Sequencing.exists_ok_of_map h
      exact ⟨fun s hs => (by cases hs), hfound.2, hbuckets⟩

end Aggregation

/-! ## Answers of a store -/

/-- A column comes back with its settings. -/
lemma Field.survives_of_settings {f : Field} (h : (Json.obj f.settings).Writable) :
    Survives ofJson? toJson f := by
  obtain ⟨name, expr, label, settings⟩ := f
  obtain ⟨hsorted, heach⟩ := Json.writable_obj_iff.1 h
  have hsettings : Json.Carries [("settings", Json.ofNonemptyTable id settings)] fun u =>
      Json.defaulted "settings" [] (Json.table? Aggregation.any?) u = some settings :=
    Json.Rewrites.nonemptyTable hsorted (fun e he => ⟨heach e he, rfl⟩) "settings"
  have hread : Json.Carries [("name", name.map .str), ("expr", expr.map .str),
      ("label", label.map .str), ("settings", Json.ofNonemptyTable id settings)] fun u =>
        ofJson? (.obj u) = some ⟨name, expr, label, settings⟩ := by
    refine ((Json.carries_optional_text "name" name).cons
      ((Json.carries_optional_text "expr" expr).cons
        ((Json.carries_optional_text "label" label).cons hsettings))).imp fun u hu => ?_
    obtain ⟨h₁, h₂, h₃, h₄⟩ := hu
    rw [ofJson?, Json.fields?, Option.bind_some, h₁, h₂, h₃, h₄]
  exact Json.Rewrites.survives ⟨hread.writable_record, hread.members (by simp)⟩

namespace Store

variable {s : Store Json} {now : Instant} {r : SearchRequest} {t : Table AggregationResult}

/-- An answer survives if the results of the aggregations do. -/
lemma survives_resultOf_iff {ordered : List Json} (hordered : ∀ x ∈ ordered, x.Writable)
    (hsize : ordered.length < UInt64.size)
    (hfields : ∀ f ∈ r.fields, (Json.obj f.settings).Writable) (ht : Table.Sorted t) :
    (resultOf Evaluator.json r t ordered).Survives ↔
      ∀ e ∈ t, Survives AggregationResult.ofJson? AggregationResult.toJson e.2 := by
  have hpage : ∀ x ∈ r.page ordered, x.Writable := fun x hx =>
    hordered x (List.mem_of_mem_drop (List.mem_of_mem_take hx))
  rw [SearchResult.survives_iff]
  constructor
  · exact fun h => h.1.2
  · intro h
    refine ⟨⟨ht, h⟩, fun items hitems x hx => ?_, fun rows hrows row hrow v hv => ?_, hsize,
      fun f hf => Field.survives_of_settings (hfields f hf)⟩
    · obtain ⟨-, rfl⟩ : r.fields.isEmpty = true ∧ _ = items := by
        simpa [resultOf] using hitems
      exact (Json.survives_iff_of_writable (hpage x hx)).2 rfl
    · obtain ⟨-, rfl⟩ : ¬ r.fields.isEmpty = true ∧ _ = rows := by
        simpa [resultOf] using hrows
      obtain ⟨x, hx, rfl⟩ := List.mem_map.1 hrow
      obtain ⟨f, -, rfl⟩ := List.mem_map.1 hv
      split
      · exact (Evaluator.says_json (hpage x hx)).extractValue _
      · exact .null

/-- **Answers that survive.** A store of documents answers a request. The answer comes back as it
was exactly if a document can say the results of the aggregations at every depth. Each of them is
computed for some of the records by an aggregation of the request, and as long as a document can say
what is copied from the request, one that cannot be said has numbers that are not finite, or none
where there are no places. The answer therefore survives if there is no kind at any depth that
computes with numbers; and what is copied from the requests of documents can always be said.

**Proof sketch.** The records and the columns are those of documents, and the counts are bounded by
the size of the store, so that `survives_resultOf_iff` leaves the results of the aggregations, which
`AggregationResult.survives_iff` takes apart. Each of them is computed by an aggregation that the
computation meets, and `Aggregation.expressible_of_compute` applies to it. -/
theorem search_survives_iff [Environment] (hdocuments : ∀ x ∈ s.records, x.Writable)
    (hsize : s.size < UInt64.size)
    (hfields : ∀ f ∈ r.fields, (Json.obj f.settings).Writable) {result : SearchResult Json}
    (h : s.search Evaluator.json now r = .ok result) :
    (result.Survives ↔ ∀ e ∈ result.aggs, ∀ x : AggregationResult, x.Within e.2 →
        x.Expressible) ∧
      (∀ e ∈ result.aggs, ∀ x : AggregationResult, x.Within e.2 →
        ∃ a ∈ r.aggs, ∃ (b : Aggregation) (rs : List Json), b.kind ∈ a.kinds ∧
          rs.Sublist s.records ∧ b.compute Evaluator.json now rs = .ok x ∧
          (b.kind.LiteralsExpressible → b.kind.MeasuresFinite Evaluator.json rs →
            x.Expressible)) ∧
      ((∀ a ∈ r.aggs, ∀ k ∈ a.kinds, k.LiteralsExpressible ∧ k.measures = false) →
        result.Survives) ∧
      ∀ j, j.Writable → SearchRequest.ofJson? j = some r →
        ∀ a ∈ r.aggs, ∀ k ∈ a.kinds, k.LiteralsExpressible := by
  obtain ⟨ms, t, ordered, hms, ht, hordered, rfl⟩ := search_eq_ok_iff.1 h
  obtain ⟨p, -, hselect⟩ := matching_eq_ok_iff.1 hms
  have hmatched : ms.Sublist s.records := Query.select_sublist hselect
  have hperm : ordered.Perm ms := SearchRequest.perm_of_sorted hordered
  have hlength : ∀ rs : List Json, rs.Sublist s.records → rs.length < UInt64.size := by
    intro rs hrs
    have hrecords : s.records.length = s.size := List.length_map _
    have hle := hrs.length_le
    omega
  have hsays : ∀ x ∈ s.records, Evaluator.json.Says x := fun x hx =>
    Evaluator.says_json (hdocuments x hx)
  have hsurvives : (resultOf Evaluator.json r t ordered).Survives ↔
      ∀ e ∈ t, ∀ x : AggregationResult, x.Within e.2 → x.Expressible :=
    (survives_resultOf_iff (fun x hx => hdocuments x (hmatched.subset (hperm.mem_iff.1 hx)))
      (hperm.length_eq ▸ hlength _ hmatched) hfields (Aggregation.computeAll_table ht).1).trans
      (forall₂_congr fun e _ => e.2.survives_iff)
  have hcomputed : ∀ e ∈ t, ∀ x : AggregationResult, x.Within e.2 →
      ∃ a ∈ r.aggs, ∃ (b : Aggregation) (rs : List Json), b.kind ∈ a.kinds ∧
        rs.Sublist s.records ∧ b.compute Evaluator.json now rs = .ok x ∧
        (b.kind.LiteralsExpressible → b.kind.MeasuresFinite Evaluator.json rs →
          x.Expressible) := by
    intro e he x hx
    obtain ⟨a, ha, -, hcompute⟩ := Aggregation.exists_of_mem_computeAll ht he
    obtain ⟨b, rs, hreaches, hb⟩ := Aggregation.exists_reached_of_within hx hcompute
    have hrs : rs.Sublist s.records := hreaches.sublist.trans hmatched
    refine ⟨a, ha, b, rs, hreaches.kind_mem, hrs, hb, fun hliterals hfinite => ?_⟩
    exact Aggregation.expressible_of_compute (fun y hy => hsays y (hrs.subset hy)) (hlength rs hrs)
      hliterals hfinite hb
  refine ⟨hsurvives, hcomputed, fun hkinds => hsurvives.2 fun e he x hx => ?_, ?_⟩
  · obtain ⟨a, ha, b, rs, hb, -, -, hexpressible⟩ := hcomputed e he x hx
    obtain ⟨hliterals, hmeasures⟩ := hkinds a ha _ hb
    exact hexpressible hliterals (AggregationKind.measuresFinite_of_measures hmeasures _ _)
  · exact fun j hj hr => SearchRequest.literalsExpressible_of_writable hj hr

/-! ## A shelf and a burst -/

/-- Two books and a map, each with the day on which it was bought. -/
def shelf : Store Json :=
  ofList [("1", .obj [("at", .str "2024-02-29T12:00:00Z"), ("kind", .str "book")]),
    ("2", .obj [("at", .str "2024-03-01T08:30:00Z"), ("kind", .str "book")]),
    ("3", .obj [("kind", .str "map"), ("scale", .double (Floating.ofDecimal false 25 (-1)))])]

/-- A request for the days of each kind, with a half for what has no kind, and for the kinds in a
column. -/
def daysOfKinds : SearchRequest where
  aggs :=
    [{ key := "kinds"
       kind := .onField "kind" (.terms none none none
        (some (.double (Floating.ofDecimal false 5 (-1)))))
       aggs := [{ key := "days", kind := .onField "at" (.dateHistogram "1d" none none none) }] }]
  fields := [{ name := some "kind", settings := [("width", .int 9)] }]

section Examples

attribute [local instance] Environment.isolated

/-- The answer about the shelf survives: the kinds and days of documents can be said. -/
theorem shelf_survives : (∀ x ∈ shelf.records, x.Writable) ∧ shelf.size < UInt64.size ∧
    (∀ f ∈ daysOfKinds.fields, (Json.obj f.settings).Writable) ∧
    ∃ result, shelf.search Evaluator.json Instant.earliest daysOfKinds = .ok result ∧
      result.Survives := by
  have hdocuments : ∀ x ∈ shelf.records, x.Writable := by
    have hrecords : shelf.records = [
        .obj [("at", .str "2024-02-29T12:00:00Z"), ("kind", .str "book")],
        .obj [("at", .str "2024-03-01T08:30:00Z"), ("kind", .str "book")],
        .obj [("kind", .str "map"), ("scale", .double (Floating.ofDecimal false 25 (-1)))]] := rfl
    simp only [hrecords, Json.writable_obj_iff, Json.writable_double_iff, Json.Writable.str,
      List.forall_mem_cons, List.not_mem_nil, false_imp_iff, implies_true, and_true, true_and]
    decide +kernel
  have hsize : shelf.size < UInt64.size := by decide
  have hfields : ∀ f ∈ daysOfKinds.fields, (Json.obj f.settings).Writable := by
    simp only [daysOfKinds, Json.writable_obj_iff, Json.writable_int_iff, List.forall_mem_cons,
      List.not_mem_nil, false_imp_iff, implies_true, and_true]
    decide
  have hkinds : ∀ a ∈ daysOfKinds.aggs, ∀ k ∈ a.kinds,
      k.LiteralsExpressible ∧ k.measures = false := by
    simp only [daysOfKinds, Aggregation.kinds, Aggregation.kindsAll, List.append_nil,
      List.forall_mem_cons, List.not_mem_nil, false_imp_iff, implies_true, and_true]
    have hhalf : (Floating.ofDecimal false 5 (-1) : Double).isFinite = true := by decide +kernel
    exact ⟨⟨fun v hv => Option.some.inj hv ▸ .double hhalf, rfl⟩, trivial, rfl⟩
  obtain ⟨result, hresult⟩ : ∃ result,
      shelf.search Evaluator.json Instant.earliest daysOfKinds = .ok result := ⟨_, rfl⟩
  have hsurvives := (search_survives_iff hdocuments hsize hfields hresult).2.2.1
  exact ⟨hdocuments, hsize, hfields, result, hresult, hsurvives hkinds⟩

/-- A document with the text of a number beyond all finite numbers. -/
def burst : Store Json := ofList [("1", .obj [("f", .str "1e999")])]

/-- A request for figures. -/
def figures : SearchRequest :=
  { aggs := [{ key := "x", kind := .onField "f" (.stats none) }] }

/-- **An answer that is lost.** The figures of a text of a number that has no finite value are
infinite. They are sent as null, and what arrives is no answer. -/
theorem burst_lost : (∀ x ∈ burst.records, x.Writable) ∧
    ∃ result, burst.search Evaluator.json Instant.earliest figures = .ok result ∧
      SearchResult.ofJson? some (result.toJson id).sent = none ∧ ¬ result.Survives := by
  have hdocuments : ∀ x ∈ burst.records, x.Writable := by
    have hrecords : burst.records = [.obj [("f", .str "1e999")]] := rfl
    simp only [hrecords, Json.writable_obj_iff, Json.Writable.str, List.forall_mem_cons,
      List.not_mem_nil, false_imp_iff, implies_true, and_true]
    decide
  have hlost : (match burst.search Evaluator.json Instant.earliest figures with
      | .ok result => (SearchResult.ofJson? some (result.toJson id).sent).isNone
      | .error _ => false) = true := by
    decide +kernel
  cases hsearch : burst.search Evaluator.json Instant.earliest figures with
  | error e =>
    rw [hsearch] at hlost
    cases hlost
  | ok result =>
    rw [hsearch] at hlost
    have hnone : SearchResult.ofJson? some (result.toJson id).sent = none :=
      Option.isNone_iff_eq_none.1 hlost
    refine ⟨hdocuments, result, rfl, hnone, fun h => ?_⟩
    have hreads : SearchResult.ofJson? some (result.toJson id).sent = some result := h.reads
    rw [hnone] at hreads
    cases hreads

end Examples

end Store

end Sift
