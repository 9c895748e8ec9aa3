import Sift.Proofs.ClauseLeaves
import Sift.Proofs.Decoration
import Sift.Proofs.TableLaws

/-!
# What the expansion of queries leaves behind

The texts in a query are replaced by what they say, and then the names by what they stand for. A
text never says anything that would have to be replaced again. A definition may: the texts in it are
replaced, the names in it stay. Whether a query can be executed therefore depends on the definitions
of the names in it, and on nothing else.

## Main definitions

* `Sift.Query.Unnamed`: queries without names.
* `Sift.Vocabulary.Settled`: the names in a query stand for queries without names.

## Main results

* `Sift.Query.resolved_of_ofText`: what a text says contains neither texts nor names.
* `Sift.Vocabulary.meaning_resolved_iff`: when what a name stands for can be executed.
* `Sift.Vocabulary.settled_of_definitions`: definitions under which every query can be executed.
* `Sift.Vocabulary.query_resolved_iff`: when an expanded query can be executed.
* `Sift.Vocabulary.linked_stays_named`: a name for a name stays a name.
-/

set_option autoImplicit false

namespace Sift

/-! ## What texts say -/

/-- A clause asks for values, and stands for no other query. -/
lemma Clause.toQuery_resolved (defaultField : String) (c : Clause) :
    (c.toQuery defaultField).Resolved := by
  have hleaf : ∀ f k, (Query.leaf f k).Resolved := fun f k l hl => List.mem_singleton.1 hl ▸ rfl
  unfold toQuery
  split
  · split
    · exact fun l hl => List.mem_singleton.1 hl ▸ rfl
    · exact hleaf _ _
  · split
    · exact hleaf _ _
    · exact hleaf _ _
  · exact hleaf _ _

namespace Query

/-- What a text says contains neither texts nor names. -/
theorem resolved_of_ofText {text : String} {defaultField : Option String} {q : Query}
    (h : ofText text defaultField = .ok q) : q.Resolved := by
  intro l hl
  rw [leaves_ofText h, List.mem_flatMap] at hl
  obtain ⟨t, -, ht⟩ := hl
  cases t with
  | clause c =>
    apply c.toQuery_resolved (defaultField.getD anyField)
    rw [c.leaves_toQuery]
    exact ht
  | and | or | not | opening | closing => cases ht

/-- The query that a text stands for has no placeholders. -/
lemma resolved_of_expandText {s : String} {d : Option String} {q : Query}
    (h : (text s d).expandText = .ok q) : q.Resolved := by
  rw [expandText] at h
  exact resolved_of_ofText (Sequencing.eq_ok_of_mapError h)

/-! ## Substitution and leaves -/

/-- A leaf is no connective. -/
lemma cases_of_mem_leaves {q l : Query} (h : l ∈ q.leaves) :
    (∃ f c, l = leaf f c) ∨ l = matchAll ∨ (∃ s d, l = text s d) ∨ ∃ n k, l = named n k := by
  induction q using Query.induction with
  | and of ih | or of ih | not of ih =>
    rw [leaves, leavesAll_eq_flatMap, List.mem_flatMap] at h
    obtain ⟨q, hq, hl⟩ := h
    exact ih q hq hl
  | leaf f c => exact .inl ⟨f, c, List.mem_singleton.1 h⟩
  | matchAll => exact .inr (.inl (List.mem_singleton.1 h))
  | text s d => exact .inr (.inr (.inl ⟨s, d, List.mem_singleton.1 h⟩))
  | named n k => exact .inr (.inr (.inr ⟨n, k, List.mem_singleton.1 h⟩))

/-- A leaf that is no placeholder is resolved. -/
lemma resolved_of_mem_leaves {q l : Query} (h : l ∈ q.leaves) (hl : l.isPlaceholder = false) :
    l.Resolved := by
  rcases cases_of_mem_leaves h with ⟨f, c, rfl⟩ | rfl | ⟨s, d, rfl⟩ | ⟨n, k, rfl⟩
  · exact List.forall_mem_singleton.2 rfl
  · exact List.forall_mem_singleton.2 rfl
  · cases hl
  · cases hl

/-- **The leaves after a substitution** are those of the queries that have been put in place. -/
theorem forall_leaves_substitute_iff {replace : Query → Except Error Query} {q q' : Query}
    (h : q.substitute replace = .ok q') (P : Query → Prop) :
    (∀ l ∈ q'.leaves, P l) ↔ ∀ l ∈ q.leaves, ∃ x, replace l = .ok x ∧ ∀ l' ∈ x.leaves, P l' := by
  induction q using Query.induction generalizing q' with
  | and of ih | or of ih | not of ih =>
    obtain ⟨of', hof, rfl⟩ := Sequencing.exists_ok_of_map h
    rw [substituteAll_eq_mapM] at hof
    simp only [leaves, leavesAll_eq_flatMap, List.forall_mem_flatMap]
    exact Sequencing.forall_result_iff hof fun q hq q' hq' => ih q hq hq'
  | leaf f c | text s d | named n k | matchAll =>
    rw [substitute] at h
    simp [leaves, h]

/-- Whether a query is a name. -/
def isName : Query → Bool
  | named _ _ => true
  | _ => false

/-- No leaf is a name. -/
def Unnamed (q : Query) : Prop := ∀ l ∈ q.leaves, l.isName = false

instance (q : Query) : Decidable q.Unnamed :=
  inferInstanceAs (Decidable (∀ l ∈ q.leaves, l.isName = false))

/-- When texts have been expanded, names are all that may be left to be replaced. -/
lemma expandTexts_resolved_iff {q q' : Query} (h : q.expandTexts = .ok q') :
    q'.Resolved ↔ q.Unnamed := by
  rw [Resolved, forall_leaves_substitute_iff h, Unnamed]
  refine forall₂_congr fun l hl => ?_
  have hx : ∃ x, l.expandText = .ok x ∧ ∀ l' ∈ x.leaves, True :=
    (forall_leaves_substitute_iff h fun _ => True).1 (fun _ _ => trivial) l hl
  rcases cases_of_mem_leaves hl with ⟨f, c, rfl⟩ | rfl | ⟨s, d, rfl⟩ | ⟨n, k, rfl⟩
  · simp [expandText, leaves, isPlaceholder, isName]
  · simp [expandText, leaves, isPlaceholder, isName]
  · obtain ⟨x, hx, -⟩ := hx
    have hresolved : x.Resolved := resolved_of_expandText hx
    simp only [hx, isName, iff_true]
    exact ⟨x, rfl, hresolved⟩
  · simp [expandText, leaves, isPlaceholder, isName]

end Query

namespace Vocabulary

variable {v : Vocabulary} {timeZone : Option String}

/-! ## What names stand for -/

/-- The names in a query stand for queries without names. -/
def Settled (v : Vocabulary) (timeZone : Option String) (q : Query) : Prop :=
  ∀ name key, .named name key ∈ q.leaves → ∀ d, v.definition timeZone name key = .ok d → d.Unnamed

/-- What a name stands for can be executed exactly if there is no name in its definition. -/
theorem meaning_resolved_iff {name : String} {key : Value} {q : Query}
    (h : v.meaning timeZone name key = .ok q) :
    q.Resolved ↔ ∀ d, v.definition timeZone name key = .ok d → d.Unnamed := by
  rw [meaning] at h
  cases hd : v.definition timeZone name key with
  | error e =>
    rw [hd] at h
    cases h
  | ok d =>
    rw [hd] at h
    rw [Query.expandTexts_resolved_iff (Sequencing.eq_ok_of_mapError h)]
    constructor
    · intro hnames d' hd'
      exact Except.ok.inj hd' ▸ hnames
    · exact fun hall => hall d rfl

/-- Only filters of their own can put names into the filter of a bucket. -/
lemma selection_unnamed {name field : String} {key : Value} {g : Grouping} {q : Query}
    (h : g.selection name field key timeZone = .ok q) : q.Unnamed := by
  have hleaf : ∀ f c, (Query.leaf f c).Unnamed := fun f c l hl => List.mem_singleton.1 hl ▸ rfl
  cases g with
  | terms _ _ _ _ =>
    obtain rfl := Except.ok.inj h
    exact hleaf _ _
  | missing =>
    obtain rfl := Except.ok.inj h
    exact fun l hl => List.mem_singleton.1 hl ▸ rfl
  | range _ | dateRange _ _ _ | histogram _ _ _ | dateHistogram _ _ _ _ =>
    simp only [Grouping.selection] at h
    split at h
    · obtain rfl := Except.ok.inj h
      exact hleaf _ _
    · cases h
  | stats _ | geoBounds | geoCentroid | geoHash _ _ | geoDistance _ _ _ => cases h

/-- **Definitions without names.** If neither the queries nor the filters that are defined contain
names, the names in every query settle. -/
theorem settled_of_definitions (hqueries : ∀ e ∈ v.queries, e.2.Unnamed)
    (hfilters : ∀ e ∈ v.aggregations, ∀ fs, e.2.kind = .filters fs → ∀ f ∈ fs, f.2.Unnamed)
    (q : Query) : v.Settled timeZone q := by
  intro name key _ d hd
  rw [definition] at hd
  cases hq : Table.find? name v.queries with
  | some q =>
    rw [hq] at hd
    obtain rfl := Except.ok.inj hd
    exact hqueries _ (Table.mem_of_find? hq)
  | none =>
    rw [hq] at hd
    cases ha : Table.find? name v.aggregations with
    | none =>
      rw [ha] at hd
      cases hd
    | some a =>
      simp only [ha] at hd
      cases hkind : a.kind with
      | onField field g =>
        rw [hkind] at hd
        exact selection_unnamed hd
      | named _ =>
        rw [hkind] at hd
        cases hd
      | filters fs =>
        simp only [hkind, AggregationKind.selection] at hd
        split at hd
        · rename_i hfind
          obtain rfl := Except.ok.inj hd
          exact hfilters _ (Table.mem_of_find? ha) fs hkind _ (Table.mem_of_find? hfind)
        · cases hd

/-! ## The expansion -/

/-- The leaves of the query that is sent, by the leaves of the query that is asked. -/
lemma forall_leaves_query_iff {q q' : Query} (h : v.query timeZone q = .ok q')
    (P : Query → Prop) :
    (∀ l ∈ q'.leaves, P l) ↔ ∀ l ∈ q.leaves, ∃ y, l.expandText = .ok y ∧ ∀ l' ∈ y.leaves,
      ∃ x, v.expandName timeZone (l'.rename v.fieldName) = .ok x ∧ ∀ l'' ∈ x.leaves, P l'' := by
  obtain ⟨q₁, htexts, hnames⟩ := query_eq_ok_iff.1 h
  rw [Query.forall_leaves_substitute_iff hnames, Query.leaves_rename, List.forall_mem_map]
  exact Query.forall_leaves_substitute_iff htexts _

/-- What contains neither texts nor names is sent as it is. -/
lemma expandName_of_resolved {q : Query} (h : q.Resolved) :
    v.expandName timeZone q = .ok q := by
  cases q with
  | named n k => cases h _ List.mem_cons_self
  | and _ | or _ | not _ | leaf _ _ | text _ _ | matchAll => rfl

/-- The leaves of a query without texts and names are sent under the names of their fields. -/
lemma sent_resolved {y l x : Query} (hy : y.Resolved) (hl : l ∈ y.leaves)
    (hx : v.expandName timeZone (l.rename v.fieldName) = .ok x) : x.Resolved := by
  have hleaf : (l.rename v.fieldName).Resolved :=
    (Query.resolved_rename _ _).2 (Query.resolved_of_mem_leaves hl (hy l hl))
  rw [expandName_of_resolved hleaf] at hx
  exact Except.ok.inj hx ▸ hleaf

/-- **What the expansion leaves behind.** An expanded query contains neither texts nor names exactly
if the names in it stand for queries without names. Then it is not refused as a query that has to be
expanded, whatever records there are.

**Proof sketch.** Every leaf of the query becomes a query of its own. A text becomes what it says,
which is resolved and stays so under the names of the fields; a name becomes its meaning, which is
resolved exactly if there is no name in the definition; any other leaf stays. -/
theorem query_resolved_iff {q q' : Query} (h : v.query timeZone q = .ok q') :
    (q'.Resolved ↔ v.Settled timeZone q) ∧
      (v.Settled timeZone q → ∀ {R : Type} [Environment] (E : Evaluator R) (now : Instant)
        (s : String), q'.compile E now ≠ .error (.unsupported s)) := by
  have hiff : q'.Resolved ↔ v.Settled timeZone q := by
    rw [Query.Resolved, forall_leaves_query_iff h]
    constructor
    · intro hall name key hl d hd
      obtain ⟨y, hy, hsent⟩ := hall _ hl
      obtain rfl := Except.ok.inj hy
      obtain ⟨x, hx, hresolved⟩ := hsent _ List.mem_cons_self
      exact (meaning_resolved_iff (Sequencing.eq_ok_of_mapError hx)).1 hresolved d hd
    · intro hsettled l hl
      obtain ⟨y, hy, hsent⟩ : ∃ y, l.expandText = .ok y ∧ ∀ l' ∈ y.leaves, ∃ x,
          v.expandName timeZone (l'.rename v.fieldName) = .ok x ∧ ∀ l'' ∈ x.leaves, True :=
        (forall_leaves_query_iff h fun _ => True).1 (fun _ _ => trivial) l hl
      refine ⟨y, hy, fun l' hl' => ?_⟩
      obtain ⟨x, hx, -⟩ := hsent l' hl'
      refine ⟨x, hx, ?_⟩
      rcases Query.cases_of_mem_leaves hl with ⟨f, c, rfl⟩ | rfl | ⟨s, d, rfl⟩ | ⟨n, k, rfl⟩
      · obtain rfl := Except.ok.inj hy
        exact sent_resolved (Query.resolved_of_mem_leaves hl rfl) hl' hx
      · obtain rfl := Except.ok.inj hy
        exact sent_resolved (Query.resolved_of_mem_leaves hl rfl) hl' hx
      · exact sent_resolved (Query.resolved_of_expandText hy) hl' hx
      · obtain rfl := Except.ok.inj hy
        obtain rfl := List.mem_singleton.1 hl'
        have hmeaning : v.meaning timeZone n k = .ok x := Sequencing.eq_ok_of_mapError hx
        exact (meaning_resolved_iff hmeaning).2 (hsettled n k hl)
  exact ⟨hiff, fun hsettled R _ E now => Query.compile_supported (hiff.2 hsettled)⟩

/-! ## A name for a name -/

/-- A vocabulary in which a name stands for a name of a query. -/
def linked : Vocabulary where
  queries := [("gold", .leaf "tier" (.term (.str "gold"))), ("vip", .named "gold" .null)]

/-- A name that is defined as a condition is replaced by it. -/
theorem linked_resolved :
    linked.query none (.named "gold" .null) = .ok (.leaf "tier" (.term (.str "gold"))) ∧
      linked.Settled none (.named "gold" .null) := by
  have hok : linked.query none (.named "gold" .null) =
      .ok (.leaf "tier" (.term (.str "gold"))) := rfl
  exact ⟨hok, (query_resolved_iff hok).1.1 (by decide)⟩

/-- **A name for a name stays a name**, and is refused. -/
theorem linked_stays_named :
    ∃ q', linked.query none (.named "vip" .null) = .ok q' ∧ ¬ q'.Resolved ∧
      ∀ {R : Type} [Environment] (E : Evaluator R) (now : Instant),
        q'.compile E now =
          .error (.unsupported "named query must be expanded before execution") :=
  ⟨.named "gold" .null, rfl, by decide, fun _ _ => rfl⟩

end Vocabulary

end Sift
