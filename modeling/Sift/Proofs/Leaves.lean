import Sift.Proofs.Selections
import Sift.Query.Substitution

/-!
# The leaves of a query

The connectives of a query are treated alike by everything that walks through one: compilation,
substitution and renaming act on the leaves. What holds of a query is therefore mostly a statement
about its leaves, of which texts and names are the ones that stand for something else.

## Main definitions

* `Sift.Query.leaves`: the parts of a query that are no connectives.
* `Sift.Query.Resolved`: queries without texts and names.
* `Sift.Evaluator.rename`: an evaluator that looks up other paths.

## Main results

* `Sift.Query.substitute_eq_self`: a substitution that keeps every leaf keeps the query.
* `Sift.Query.resolved_of_compile_ok`, `Sift.Query.compile_supported`: only a query without texts
  and names has a predicate, and such a query is never refused as unsupported.
* `Sift.Query.error_of_predicate`: a predicate that has no answer for a record was broken off.
* `Sift.Query.compile_rename`: a query with other fields is the same query under an evaluator that
  looks up other paths.
-/

set_option autoImplicit false

namespace Sift

namespace Query

/-- An induction over queries that covers all parts of a connective at once. -/
@[elab_as_elim]
lemma induction {motive : Query → Prop}
    (and : ∀ of, (∀ q ∈ of, motive q) → motive (and of))
    (or : ∀ of, (∀ q ∈ of, motive q) → motive (or of))
    (not : ∀ of, (∀ q ∈ of, motive q) → motive (not of))
    (leaf : ∀ f c, motive (leaf f c)) (text : ∀ s d, motive (text s d))
    (named : ∀ n k, motive (named n k)) (matchAll : motive matchAll) (q : Query) : motive q :=
  @Query.rec motive (fun qs => ∀ q ∈ qs, motive q) and or not leaf text named matchAll
    (fun _ h => absurd h List.not_mem_nil)
    (fun _ _ hq hrest => List.forall_mem_cons.2 ⟨hq, hrest⟩) q

/-! ## Leaves -/

mutual

/-- The parts of a query that are no connectives, from left to right. -/
def leaves : Query → List Query
  | and of => leavesAll of
  | or of => leavesAll of
  | not of => leavesAll of
  | leaf f c => [leaf f c]
  | text s d => [text s d]
  | named n k => [named n k]
  | matchAll => [matchAll]

/-- The parts of several queries that are no connectives. -/
def leavesAll : List Query → List Query
  | [] => []
  | q :: rest => leaves q ++ leavesAll rest

end

/-- The leaves of a list are those of its queries, one after the other. -/
@[simp] lemma leavesAll_eq_flatMap (qs : List Query) : leavesAll qs = qs.flatMap leaves := by
  induction qs with
  | nil => rfl
  | cons q rest ih => rw [leavesAll, ih, List.flatMap_cons]

/-- Whether a leaf stands for another query. -/
def isPlaceholder : Query → Bool
  | text _ _ => true
  | named _ _ => true
  | _ => false

/-- No leaf stands for another query. -/
def Resolved (q : Query) : Prop := ∀ l ∈ q.leaves, l.isPlaceholder = false

instance (q : Query) : Decidable q.Resolved :=
  inferInstanceAs (Decidable (∀ l ∈ q.leaves, l.isPlaceholder = false))

/-! ## Substitution -/

/-- A list of queries is substituted one by one. -/
lemma substituteAll_eq_mapM (replace : Query → Except Error Query) (qs : List Query) :
    substituteAll replace qs = qs.mapM (substitute replace) := by
  induction qs with
  | nil => rfl
  | cons q rest ih =>
    rw [substituteAll, Sequencing.mapM_cons, ih]
    cases substitute replace q with
    | error e => rfl
    | ok q' => cases rest.mapM (substitute replace) <;> rfl

/-- A substitution that keeps every leaf keeps the query. -/
theorem substitute_eq_self {replace : Query → Except Error Query} (q : Query)
    (h : ∀ l ∈ q.leaves, replace l = .ok l) : q.substitute replace = .ok q := by
  induction q using Query.induction with
  | and of ih | or of ih | not of ih =>
    have hof : of.mapM (substitute replace) = .ok of := Sequencing.mapM_eq_self fun q hq =>
      ih q hq fun l hl => h l (by simpa [leaves] using ⟨q, hq, hl⟩)
    rw [substitute, substituteAll_eq_mapM, hof]
    rfl
  | leaf f c | text s d | named n k | matchAll => exact h _ List.mem_cons_self

/-- Where nothing stands for a query, there are no texts to expand. -/
lemma expandTexts_of_resolved {q : Query} (h : q.Resolved) : q.expandTexts = .ok q := by
  refine substitute_eq_self q fun l hl => ?_
  have hp : l.isPlaceholder = false := h l hl
  cases l with
  | text s d => cases hp
  | and _ | or _ | not _ | leaf _ _ | named _ _ | matchAll => rfl

/-! ## Renaming -/

/-- Renaming a query renames its leaves. -/
lemma leaves_rename (f : String → String) (q : Query) :
    (q.rename f).leaves = q.leaves.map (rename f) := by
  induction q using Query.induction with
  | and of ih | or of ih | not of ih =>
    have hof : of.map (fun q => (q.rename f).leaves) = of.map (fun q => q.leaves.map (rename f)) :=
      List.map_congr_left ih
    simp only [rename, leaves, renameAll_eq_map, leavesAll_eq_flatMap]
    rw [List.flatMap_map, List.map_flatMap, List.flatMap_def, List.flatMap_def, hof]
  | leaf _ _ | text _ _ | named _ _ | matchAll => rfl

/-- Renaming fields neither makes nor removes placeholders. -/
lemma isPlaceholder_rename (f : String → String) (q : Query) :
    (q.rename f).isPlaceholder = q.isPlaceholder := by
  cases q <;> rfl

/-- Renaming fields neither makes nor removes placeholders at any depth. -/
lemma resolved_rename (f : String → String) (q : Query) :
    (q.rename f).Resolved ↔ q.Resolved := by
  simp only [Resolved, leaves_rename, List.forall_mem_map, isPlaceholder_rename]

end Query

/-- An evaluator that looks up the path that another one stands for. -/
def Evaluator.rename {R : Type} (E : Evaluator R) (f : String → String) : Evaluator R :=
  fun r path => E r (f path)

/-! ## Compilation -/

/-- The date of a text can only be broken off. -/
lemma Value.resolveDate_error {now : Instant} {up : Bool} {zone : Zone} {v : Value} {e : Error}
    (h : v.resolveDate now up zone = .error e) : e = .crash := by
  cases v with
  | str s =>
    rw [resolveDate] at h
    split at h
    · rename_i hs
      exact Except.error.inj h ▸ (DateError.settle_eq_error_iff.1 hs).2
    · cases h
    · cases h
  | _ => cases h

/-- The date of a record value can only be broken off. -/
lemma Value.recordDate_error {zone : Zone} {v : Value} {e : Error}
    (h : v.recordDate zone = .error e) : e = .crash := by
  cases v with
  | str s =>
    rw [recordDate] at h
    split at h
    · cases h
    · exact resolveDate_error h
  | _ => cases h

/-- The bounds of a range of dates can only be broken off. -/
lemma Condition.dateLimits_error {now : Instant} {zone : Zone} {b : Bounds} {e : Error}
    (h : dateLimits now zone b = .error e) : e = .crash := by
  obtain ⟨l, -, hl⟩ := Sequencing.exists_error_of_mapM h
  exact Value.resolveDate_error (Sequencing.eq_error_of_map hl)

section Conditions

variable [Environment]

/-- Regular expressions are supported, even where they are refused. -/
lemma Condition.compileRegex_supported (regex : String) : Supported (compileRegex regex) := by
  rw [compileRegex]
  cases Pattern.fullMatch? regex with
  | some pattern => exact .ok _
  | none => exact .invalidQuery _

/-- No condition is refused as unsupported. -/
theorem Condition.compile_supported (now : Instant) (c : Condition) :
    Supported (c.compile now) := by
  cases c with
  | term _ | terms _ | range _ => exact .ok _
  | dateRange b tz =>
    rw [compile]
    cases hlimits : dateLimits now (Zone.ofIdOrUtc tz) b with
    | ok limits => exact .ok _
    | error e =>
      rw [dateLimits_error hlimits]
      exact .crash
  | phrase tokens => exact compileRegex_supported (phraseGlob tokens).regex
  | startsWith s => exact compileRegex_supported (startGlob s).regex
  | wildcard g =>
    rw [compile]
    split
    · exact .ok _
    · exact compileRegex_supported _
  | regex p => exact compileRegex_supported p

/-- The test of a regular expression always has an answer. -/
lemma Condition.compileRegex_total {regex : String} {test : List Value → Except Error Bool}
    (h : compileRegex regex = .ok test) : ∃ f, test = someValue f := by
  rw [compileRegex] at h
  split at h
  · exact ⟨_, (Except.ok.inj h).symm⟩
  · cases h

/-- A test can only be broken off. -/
lemma Condition.error_of_test {now : Instant} {c : Condition}
    {test : List Value → Except Error Bool} (h : c.compile now = .ok test) {vs : List Value}
    {e : Error} (he : test vs = .error e) : e = .crash := by
  have htotal {f : Value → Bool} (hf : test = someValue f) : e = .crash := by
    rw [hf] at he
    cases he
  have hregex {regex : String} (h : compileRegex regex = .ok test) : e = .crash :=
    htotal (compileRegex_total h).choose_spec
  cases c with
  | term _ | terms _ => exact htotal (Except.ok.inj h).symm
  | range _ =>
    obtain rfl := Except.ok.inj h
    cases he
  | phrase _ | startsWith _ | regex _ => exact hregex h
  | wildcard _ =>
    rw [compile] at h
    split at h
    · exact htotal (Except.ok.inj h).symm
    · exact hregex h
  | dateRange b tz =>
    rw [compile] at h
    split at h
    · cases h
    · obtain rfl := Except.ok.inj h
      obtain ⟨v, -, hv⟩ := Sequencing.exists_error_of_mapM (Sequencing.eq_error_of_map he)
      exact Value.recordDate_error hv

end Conditions

namespace Query

variable {R : Type} {E : Evaluator R} {now : Instant} [Environment]

/-- A list of queries is compiled one by one. -/
lemma compileAll_eq_mapM (E : Evaluator R) (now : Instant) (qs : List Query) :
    compileAll E now qs = qs.mapM (compile E now) := by
  induction qs with
  | nil => rfl
  | cons q rest ih =>
    rw [compileAll, Sequencing.mapM_cons, ih]
    cases compile E now q with
    | error e => rfl
    | ok p => cases rest.mapM (compile E now) <;> rfl

/-- The test of a conjunction asks its parts until one says no. -/
lemma compile_and (of : List Query) : (and of).compile E now =
    (of.mapM (compile E now)).map fun ps r => ps.allM fun p => p r := by
  rw [compile, compileAll_eq_mapM]
  cases of.mapM (compile E now) <;> rfl

/-- The test of a disjunction asks its parts until one says yes. -/
lemma compile_or (of : List Query) : (or of).compile E now =
    (of.mapM (compile E now)).map fun ps r => ps.anyM fun p => p r := by
  rw [compile, compileAll_eq_mapM]
  cases of.mapM (compile E now) <;> rfl

/-- The test of a negation says the opposite of the disjunction of its parts. -/
lemma compile_not (of : List Query) : (not of).compile E now =
    (of.mapM (compile E now)).map fun ps r => Except.map Bool.not (ps.anyM fun p => p r) := by
  rw [compile, compileAll_eq_mapM]
  cases of.mapM (compile E now) <;> rfl

/-- A predicate can only be broken off. -/
theorem error_of_predicate {q : Query} {p : R → Except Error Bool} (h : q.compile E now = .ok p)
    {r : R} {e : Error} (he : p r = .error e) : e = .crash := by
  induction q using Query.induction generalizing p with
  | and of ih =>
    rw [compile_and] at h
    obtain ⟨ps, hps, rfl⟩ := Sequencing.exists_ok_of_map h
    obtain ⟨p, hp, hpe⟩ := Sequencing.exists_error_of_allM he
    obtain ⟨q, hq, hqp⟩ := Sequencing.exists_step hps hp
    exact ih q hq hqp hpe
  | or of ih =>
    rw [compile_or] at h
    obtain ⟨ps, hps, rfl⟩ := Sequencing.exists_ok_of_map h
    obtain ⟨p, hp, hpe⟩ := Sequencing.exists_error_of_anyM he
    obtain ⟨q, hq, hqp⟩ := Sequencing.exists_step hps hp
    exact ih q hq hqp hpe
  | not of ih =>
    rw [compile_not] at h
    obtain ⟨ps, hps, rfl⟩ := Sequencing.exists_ok_of_map h
    obtain ⟨p, hp, hpe⟩ := Sequencing.exists_error_of_anyM (Sequencing.eq_error_of_map he)
    obtain ⟨q, hq, hqp⟩ := Sequencing.exists_step hps hp
    exact ih q hq hqp hpe
  | leaf f c =>
    rw [compile] at h
    cases hc : c.compile now with
    | error e' =>
      rw [hc] at h
      cases h
    | ok test =>
      rw [hc] at h
      obtain rfl := Except.ok.inj h
      exact Condition.error_of_test hc he
  | matchAll =>
    obtain rfl := Except.ok.inj h
    cases he
  | text _ _ | named _ _ => cases h

/-- A selection can only be broken off. -/
lemma error_of_select {q : Query} {p : R → Except Error Bool} (h : q.compile E now = .ok p)
    {rs : List R} {e : Error} (he : select p rs = .error e) : e = .crash := by
  obtain ⟨r, -, hr⟩ := exists_error_of_select he
  exact error_of_predicate h hr

/-- A query with a predicate has no texts and names. -/
theorem resolved_of_compile_ok {p : R → Except Error Bool} {q : Query}
    (h : q.compile E now = .ok p) :
    q.Resolved := by
  induction q using Query.induction generalizing p with
  | and of ih | or of ih | not of ih =>
    rw [compile, compileAll_eq_mapM] at h
    cases hof : of.mapM (compile E now) with
    | error e =>
      rw [hof] at h
      cases h
    | ok ps =>
      intro l hl
      obtain ⟨q, hq, hlq⟩ : ∃ q ∈ of, l ∈ q.leaves := by simpa [leaves] using hl
      obtain ⟨p, -, hp⟩ := Sequencing.exists_result hof hq
      exact ih q hq hp l hlq
  | leaf f c => exact fun l hl => List.mem_singleton.1 hl ▸ rfl
  | matchAll => exact fun l hl => List.mem_singleton.1 hl ▸ rfl
  | text _ _ | named _ _ => cases h

/-- A query without texts and names is not refused as one that has to be expanded. -/
theorem compile_supported {q : Query} (h : q.Resolved) : Supported (q.compile E now) := by
  induction q using Query.induction with
  | and of ih | or of ih | not of ih =>
    have hof : Supported (of.mapM (compile E now)) := .mapM fun q hq =>
      ih q hq fun l hl => h l (by simpa [leaves] using ⟨q, hq, hl⟩)
    rw [compile, compileAll_eq_mapM]
    cases hps : of.mapM (compile E now) with
    | ok ps => exact .ok _
    | error e => exact hof.error hps
  | leaf f c =>
    rw [compile]
    cases hc : c.compile now with
    | ok test => exact .ok _
    | error e => exact (c.compile_supported now).error hc
  | matchAll => exact .ok _
  | text _ _ | named _ _ => cases h _ List.mem_cons_self

/-- Renaming the fields of a query or looking up other paths makes no difference. -/
theorem compile_rename (f : String → String) (q : Query) :
    (q.rename f).compile E now = q.compile (E.rename f) now := by
  induction q using Query.induction with
  | and of ih | or of ih | not of ih =>
    have hof : (of.map (rename f)).mapM (compile E now) = of.mapM (compile (E.rename f) now) := by
      rw [List.mapM_map]
      exact Sequencing.mapM_congr ih
    rw [rename, compile, compile, compileAll_eq_mapM, compileAll_eq_mapM, renameAll_eq_map, hof]
  | leaf _ _ | text _ _ | named _ _ | matchAll => rfl

end Query

end Sift
