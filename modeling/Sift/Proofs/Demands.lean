import Sift.Proofs.ClauseLeaves

/-!
# What a leaf demands of the values of its field

A leaf makes one or several demands, each of which has to be met by one value by itself: a range
makes one for each of its bounds, so that different values may meet different bounds, and any other
condition is its only demand. A range without bounds therefore demands nothing, and matches records
without values too. It is the only condition that does.

## Main definitions

* `Sift.Condition.demands`: the demands of a condition.
* `Sift.Condition.Answers`, `Sift.Condition.Admits`: there is an answer for a value by itself; the
  value meets the condition.
* `Sift.Condition.Unbounded`: ranges without bounds.

## Main results

* `Sift.Condition.compile_decides`: values meet a condition if each demand is met by one of them.
* `Sift.Clause.toQuery_unbounded_iff`: which clauses say a range without bounds.
* `Sift.Query.leaf_matches_iff`: which records a leaf matches, with values and without.
* `Sift.Query.open_range_matches_missing`: a range between stars matches a record without values.
-/

set_option autoImplicit false

namespace Sift

/-! ## Single bounds -/

/-- The bounds of which only one is present. -/
def BoundSide.only (s : BoundSide) (v : Value) : Bounds :=
  match s with
  | lt => { lt := some v }
  | lte => { lte := some v }
  | gt => { gt := some v }
  | gte => { gte := some v }

/-- A bound on one side is the only limit. -/
lemma BoundSide.limits_only (s : BoundSide) (v : Value) : (s.only v).limits = [(s, v)] := by
  cases s <;> rfl

/-- Bounds without a limit are open on all sides. -/
lemma Bounds.limits_eq_nil_iff (b : Bounds) : b.limits = [] ↔ b = {} := by
  obtain ⟨lt, lte, gt, gte⟩ := b
  cases lt <;> cases lte <;> cases gt <;> cases gte <;> simp [limits]

/-! ## Demands -/

namespace Condition

/-- The demands of a condition: for a range its single bounds, and otherwise the condition. -/
def demands : Condition → List Condition
  | range b => b.limits.map fun (s, v) => range (s.only v)
  | dateRange b tz => b.limits.map fun (s, v) => dateRange (s.only v) tz
  | c => [c]

/-- A range without bounds, of values or of dates. -/
def Unbounded : Condition → Prop
  | range b => b = {}
  | dateRange b _ => b = {}
  | _ => False

/-- The conditions without demands are the ranges without bounds. -/
lemma demands_eq_nil_iff (c : Condition) : c.demands = [] ↔ c.Unbounded := by
  cases c with
  | range b | dateRange b _ => simp [demands, Unbounded, Bounds.limits_eq_nil_iff]
  | term _ | terms _ | phrase _ | startsWith _ | wildcard _ | regex _ => simp [demands, Unbounded]

/-- Limits are met if each is met by one of the values. -/
lemma meetLimits_iff (limits : List (BoundSide × Value)) (vs : List Value) :
    Value.meetLimits limits vs = true ↔
      ∀ l ∈ limits, ∃ v ∈ vs, Value.meetLimits [l] [v] = true := by
  simp [Value.meetLimits]

/-- The dates of a single bound are those of the bounds that it is one of. -/
lemma dateLimits_only (now : Instant) (zone : Zone) (l : BoundSide × Value) :
    dateLimits now zone (l.1.only l.2) =
      (l.2.resolveDate now l.1.roundsUp zone).map fun v => [(l.1, v)] := by
  rw [dateLimits, BoundSide.limits_only, Sequencing.mapM_cons]
  dsimp only
  cases l.2.resolveDate now l.1.roundsUp zone <;> rfl

/-- A value has a date if and only if it gets an answer from a range of dates. -/
lemma datesWithin_singleton_eq_ok_iff {zone : Zone} {limits : List (BoundSide × Value)}
    {v : Value} {b : Bool} : datesWithin zone limits [v] = .ok b ↔
      ∃ w, v.recordDate zone = .ok w ∧ Value.meetLimits limits [w] = b := by
  rw [datesWithin, Sequencing.mapM_cons]
  cases v.recordDate zone <;> simp [pure, Except.pure, Except.map]

section Compilation

variable [Environment]

/-- The test of a condition has an answer for a value by itself. Only the date of a value can be
broken off. -/
def Answers (now : Instant) (c : Condition) (v : Value) : Prop :=
  ∃ test b, c.compile now = .ok test ∧ test [v] = .ok b

/-- A value by itself meets a condition. -/
def Admits (now : Instant) (c : Condition) (v : Value) : Prop :=
  ∃ test, c.compile now = .ok test ∧ test [v] = .ok true

variable {now : Instant}

/-- A value has an answer if the test gives one for it alone. -/
lemma answers_iff {c : Condition} {test : List Value → Except Error Bool}
    (h : c.compile now = .ok test) (v : Value) : c.Answers now v ↔ ∃ b, test [v] = .ok b := by
  constructor
  · rintro ⟨test', b, h', hv⟩
    rw [h] at h'
    exact ⟨b, Except.ok.inj h' ▸ hv⟩
  · rintro ⟨b, hv⟩
    exact ⟨test, b, h, hv⟩

/-- A value is admitted if the test says so of it alone. -/
lemma admits_iff {c : Condition} {test : List Value → Except Error Bool}
    (h : c.compile now = .ok test) (v : Value) : c.Admits now v ↔ test [v] = .ok true := by
  constructor
  · rintro ⟨test', h', hv⟩
    rw [h] at h'
    rwa [Except.ok.inj h']
  · intro hv
    exact ⟨test, h, hv⟩

/-- Values meet a condition if each of its demands is met by one of them, and there is an answer if
there is one for each value. -/
structure Decides (now : Instant) (c : Condition) (vs : List Value) (answer : Except Error Bool) :
    Prop where
  /-- When there is an answer. -/
  ok_iff : (∃ b, answer = .ok b) ↔ ∀ v ∈ vs, c.Answers now v
  /-- When the answer is yes. -/
  true_iff : answer = .ok true ↔
    (∀ v ∈ vs, c.Answers now v) ∧ ∀ d ∈ c.demands, ∃ v ∈ vs, d.Admits now v

/-- A test that always has an answer, which is yes if all demands are met. -/
lemma Decides.of_total {c : Condition} {test : List Value → Bool}
    (h : c.compile now = .ok fun vs => .ok (test vs)) {vs : List Value}
    (hvs : test vs = true ↔ ∀ d ∈ c.demands, ∃ v ∈ vs, d.Admits now v) :
    Decides now c vs (.ok (test vs)) := by
  have hanswers : ∀ v ∈ vs, c.Answers now v := fun v _ => (answers_iff h v).2 ⟨_, rfl⟩
  exact ⟨iff_of_true ⟨_, rfl⟩ hanswers, by
    rw [Except.ok.injEq, hvs, and_iff_right hanswers]⟩

/-- A condition that asks for a value with some property is its only demand. -/
lemma someValue_decides {c : Condition} {f : Value → Bool} (h : c.compile now = .ok (someValue f))
    (hc : c.demands = [c]) (vs : List Value) : Decides now c vs (someValue f vs) := by
  have hvs : vs.any f = true ↔ ∀ d ∈ c.demands, ∃ v ∈ vs, d.Admits now v := by
    simp [hc, admits_iff h, someValue]
  exact .of_total h hvs

/-- The test of a regular expression asks for a value whose text it matches. -/
lemma exists_of_compileRegex {regex : String} {test : List Value → Except Error Bool}
    (h : compileRegex regex = .ok test) :
    ∃ p, Pattern.fullMatch? regex = some p ∧ test = someValue (Value.matchesPattern p) := by
  rw [compileRegex] at h
  cases hp : Pattern.fullMatch? regex with
  | none =>
    rw [hp] at h
    cases h
  | some p =>
    rw [hp] at h
    exact ⟨p, rfl, (Except.ok.inj h).symm⟩

/-- A range of dates is tested by the dates of all values. -/
lemma dateRange_decides {b : Bounds} {tz : Option String} {zone : Zone}
    {limits : List (BoundSide × Value)} (hzone : Zone.ofIdOrUtc tz = zone)
    (h : dateLimits now zone b = .ok limits) (vs : List Value) :
    Decides now (dateRange b tz) vs (datesWithin zone limits vs) := by
  have hcompile : (dateRange b tz).compile now = .ok (datesWithin zone limits) := by
    rw [compile, hzone]
    simp only [h]
  have hanswers (v : Value) :
      (dateRange b tz).Answers now v ↔ ∃ w, v.recordDate zone = .ok w := by
    simp only [answers_iff hcompile, datesWithin_singleton_eq_ok_iff]
    constructor
    · rintro ⟨_, w, hw, _⟩
      exact ⟨w, hw⟩
    · rintro ⟨w, hw⟩
      exact ⟨_, w, hw, rfl⟩
  have hall : (∀ v ∈ vs, (dateRange b tz).Answers now v) ↔
      ∃ ws, vs.mapM (Value.recordDate zone) = .ok ws := by
    simp only [hanswers, Sequencing.exists_ok_mapM_iff]
  have hdemands (l m : BoundSide × Value)
      (hm : (l.2.resolveDate now l.1.roundsUp zone).map (fun v => (l.1, v)) = .ok m) (v : Value) :
      (dateRange (l.1.only l.2) tz).Admits now v ↔
        ∃ w, v.recordDate zone = .ok w ∧ Value.meetLimits [m] [w] = true := by
    obtain ⟨limit, hlimit, rfl⟩ := Sequencing.exists_ok_of_map hm
    have honly : (dateRange (l.1.only l.2) tz).compile now =
        .ok (datesWithin zone [(l.1, limit)]) := by
      rw [compile, hzone]
      simp only [dateLimits_only, hlimit, Except.map]
    rw [admits_iff honly, datesWithin_singleton_eq_ok_iff]
  refine ⟨by rw [hall, datesWithin, Sequencing.exists_ok_map_iff], ?_⟩
  rw [hall, datesWithin]
  cases hws : vs.mapM (Value.recordDate zone) with
  | error e => simp [Except.map]
  | ok ws =>
    have hsome : ∃ ws', Except.ok (ε := Error) ws = .ok ws' := ⟨ws, rfl⟩
    rw [and_iff_right hsome, Except.map, Except.ok.injEq, meetLimits_iff]
    simp only [demands, List.forall_mem_map]
    refine Sequencing.forall_result_iff h fun l _ m hm => ?_
    simp only [hdemands l m hm]
    constructor
    · rintro ⟨w, hw, hmet⟩
      obtain ⟨v, hv, hvw⟩ := Sequencing.exists_step hws hw
      exact ⟨v, hv, w, hvw, hmet⟩
    · rintro ⟨v, hv, w, hvw, hmet⟩
      obtain ⟨w', hw', hvw'⟩ := Sequencing.exists_result hws hv
      obtain rfl := Except.ok.inj (hvw.symm.trans hvw')
      exact ⟨w, hw', hmet⟩

/-- **Demands.** Values meet a condition if each of its demands is met by one of them, provided that
each of them has an answer. -/
theorem compile_decides {c : Condition} {test : List Value → Except Error Bool}
    (h : c.compile now = .ok test) (vs : List Value) : Decides now c vs (test vs) := by
  cases c with
  | term t | terms ts =>
    obtain rfl := Except.ok.inj h
    exact someValue_decides h rfl vs
  | phrase tokens =>
    have hregex : compileRegex (phraseGlob tokens).regex = .ok test := h
    obtain ⟨p, -, rfl⟩ := exists_of_compileRegex hregex
    exact someValue_decides h rfl vs
  | startsWith s =>
    have hregex : compileRegex (startGlob s).regex = .ok test := h
    obtain ⟨p, -, rfl⟩ := exists_of_compileRegex hregex
    exact someValue_decides h rfl vs
  | regex s =>
    have hregex : compileRegex s = .ok test := h
    obtain ⟨p, -, rfl⟩ := exists_of_compileRegex hregex
    exact someValue_decides h rfl vs
  | wildcard g =>
    by_cases hg : g = "*"
    · have hstar : (wildcard g).compile now = .ok (someValue fun v => !v.isNull) := by
        rw [compile, if_pos hg]
      obtain rfl := Except.ok.inj (h.symm.trans hstar)
      exact someValue_decides h rfl vs
    · have hglob : compileRegex (wildcardGlob g).regex = .ok test := by
        rw [compile, if_neg hg] at h
        exact h
      obtain ⟨p, -, rfl⟩ := exists_of_compileRegex hglob
      exact someValue_decides h rfl vs
  | range b =>
    obtain rfl := Except.ok.inj h
    have hadmits (l : BoundSide × Value) (v : Value) :
        (range (l.1.only l.2)).Admits now v ↔ Value.meetLimits [l] [v] = true := by
      rw [admits_iff rfl, BoundSide.limits_only, Except.ok.injEq]
    have hvs : Value.meetLimits b.limits vs = true ↔
        ∀ d ∈ (range b).demands, ∃ v ∈ vs, d.Admits now v := by
      rw [meetLimits_iff]
      simp only [demands, List.forall_mem_map, hadmits]
    exact .of_total h hvs
  | dateRange b tz =>
    rw [compile] at h
    cases hlimits : dateLimits now (Zone.ofIdOrUtc tz) b with
    | error e =>
      simp only [hlimits] at h
      cases h
    | ok limits =>
      simp only [hlimits] at h
      obtain rfl := Except.ok.inj h
      exact dateRange_decides rfl hlimits vs

end Compilation

end Condition

/-! ## Clauses -/

/-- The clauses that say a range without bounds are those of two stars in brackets or braces. -/
theorem Clause.toQuery_unbounded_iff (defaultField : String) (c : Clause) :
    (∃ f k, c.toQuery defaultField = .leaf f k ∧ k.Unbounded) ↔
      ∃ il iu, c.value = .range "*" "*" il iu := by
  have hplain (s : String) : ¬ (plainCondition s).Unbounded := by
    rw [plainCondition]
    split <;> exact id
  have hrange (lower upper : String) (il iu : Bool) :
      bounds lower upper il iu = {} ↔ lower = "*" ∧ upper = "*" := by
    by_cases hl : lower = "*" <;> by_cases hu : upper = "*" <;> cases il <;> cases iu <;>
      simp [bounds, bound?, hl, hu]
  obtain ⟨field, value⟩ := c
  cases value with
  | plain s =>
    constructor
    · rintro ⟨f, k, hleaf, hk⟩
      cases field with
      | none =>
        by_cases hs : s = "*"
        · simp [toQuery, hs] at hleaf
        · simp only [toQuery, if_neg hs, Query.leaf.injEq] at hleaf
          exact absurd (hleaf.2 ▸ hk) (hplain s)
      | some g =>
        by_cases hg : g = existence
        · simp only [toQuery, if_pos hg, Query.exists, Query.leaf.injEq] at hleaf
          obtain ⟨-, rfl⟩ := hleaf
          exact hk.elim
        · simp only [toQuery, if_neg hg, Query.leaf.injEq] at hleaf
          exact absurd (hleaf.2 ▸ hk) (hplain s)
    · rintro ⟨il, iu, hvalue⟩
      cases hvalue
  | quoted s | regex s =>
    cases field <;> simp [toQuery, condition, Condition.Unbounded]
  | range lower upper il iu =>
    have hquery : (Clause.mk field (.range lower upper il iu)).toQuery defaultField =
        .leaf (field.getD defaultField) (.range (bounds lower upper il iu)) := by
      cases field <;> rfl
    constructor
    · rintro ⟨f, k, hleaf, hk⟩
      rw [hquery, Query.leaf.injEq] at hleaf
      obtain ⟨-, rfl⟩ := hleaf
      obtain ⟨rfl, rfl⟩ := (hrange lower upper il iu).1 hk
      exact ⟨il, iu, rfl⟩
    · rintro ⟨il', iu', hvalue⟩
      cases hvalue
      exact ⟨_, _, hquery, (hrange _ _ _ _).2 ⟨rfl, rfl⟩⟩

/-- A query text says a range without bounds if one of its clauses does. -/
lemma Query.unbounded_of_text_iff {text : String} {defaultField : Option String} {q : Query}
    (h : ofText text defaultField = .ok q) :
    (∃ f k, leaf f k ∈ q.leaves ∧ k.Unbounded) ↔
      ∃ c il iu, Token.clause c ∈ (Token.scan (Text.trim text)).1 ∧
        c.value = .range "*" "*" il iu := by
  rw [leaves_ofText h]
  constructor
  · rintro ⟨f, k, hleaf, hk⟩
    obtain ⟨t, ht, hleaf⟩ := List.mem_flatMap.1 hleaf
    cases t with
    | clause c =>
      have hc : leaf f k = c.toQuery (defaultField.getD anyField) := List.mem_singleton.1 hleaf
      obtain ⟨il, iu, hvalue⟩ := (c.toQuery_unbounded_iff _).1 ⟨f, k, hc.symm, hk⟩
      exact ⟨c, il, iu, ht, hvalue⟩
    | and | or | not | opening | closing => cases hleaf
  · rintro ⟨c, il, iu, hc, hvalue⟩
    obtain ⟨f, k, hleaf, hk⟩ :=
      (c.toQuery_unbounded_iff (defaultField.getD anyField)).2 ⟨il, iu, hvalue⟩
    refine ⟨f, k, List.mem_flatMap.2 ⟨_, hc, ?_⟩, hk⟩
    rw [← hleaf]
    exact List.mem_singleton_self _

namespace Query

/-- A leaf with a predicate tests the values of its field. -/
lemma exists_test {R : Type} [Environment] {E : Evaluator R} {now : Instant} {field : String}
    {c : Condition} {p : R → Except Error Bool} (h : (leaf field c).compile E now = .ok p) :
    ∃ test, c.compile now = .ok test ∧ p = fun r => test (E.extract r field) := by
  rw [compile] at h
  cases hc : c.compile now with
  | error e =>
    rw [hc] at h
    cases h
  | ok test =>
    rw [hc] at h
    exact ⟨test, rfl, (Except.ok.inj h).symm⟩

/-- **Leaves match through values.** A leaf with a predicate has an answer for a record if it has
one for each of the values of its field, and then matches the record if each of its demands is met
by one of them.

* If it is no range without bounds, it matches only records with a value that meets one of them.
* A record without values at its field always gets an answer. It is matched by ranges without bounds
  and by nothing else.
* A query text has a range without bounds among its leaves if two stars stand in brackets or braces
  in it.

**Proof sketch.** Each kind of condition is the conjunction of its demands, and only a range without
bounds has none. The leaves of a query text are those of its clauses. -/
theorem leaf_matches_iff {R : Type} [Environment] {E : Evaluator R} {now : Instant} {field : String}
    {c : Condition} {p : R → Except Error Bool} (h : (leaf field c).compile E now = .ok p) (r : R) :
    ((∃ b, p r = .ok b) ↔ ∀ v ∈ E.extract r field, c.Answers now v) ∧
    (p r = .ok true ↔ (∀ v ∈ E.extract r field, c.Answers now v) ∧
      ∀ d ∈ c.demands, ∃ v ∈ E.extract r field, d.Admits now v) ∧
    (¬ c.Unbounded → p r = .ok true → ∃ d ∈ c.demands, ∃ v ∈ E.extract r field, d.Admits now v) ∧
    (E.extract r field = [] → ∃ b, p r = .ok b ∧ (b = true ↔ c.Unbounded)) ∧
    ∀ text defaultField q, ofText text defaultField = .ok q →
      ((∃ f k, leaf f k ∈ q.leaves ∧ k.Unbounded) ↔
        ∃ c il iu, Token.clause c ∈ (Token.scan (Text.trim text)).1 ∧
          c.value = .range "*" "*" il iu) := by
  obtain ⟨test, hc, rfl⟩ := exists_test h
  have hdecides := Condition.compile_decides hc (E.extract r field)
  refine ⟨hdecides.ok_iff, hdecides.true_iff, fun hbounds hp => ?_, fun hnone => ?_,
    fun _ _ _ => unbounded_of_text_iff⟩
  · obtain ⟨d, hd⟩ := List.exists_mem_of_ne_nil _ (mt c.demands_eq_nil_iff.1 hbounds)
    exact ⟨d, hd, (hdecides.true_iff.1 hp).2 d hd⟩
  · have hvalues : ∀ v ∈ E.extract r field, c.Answers now v := by simp [hnone]
    obtain ⟨b, hb⟩ := hdecides.ok_iff.2 hvalues
    have hyes := hdecides.true_iff
    rw [hb, Except.ok.injEq, and_iff_right hvalues, hnone] at hyes
    refine ⟨b, hb, hyes.trans ?_⟩
    rw [← c.demands_eq_nil_iff, List.eq_nil_iff_forall_not_mem]
    simp

section Examples

attribute [local instance] Environment.isolated

/-- Sizes from five on and below three: one large and one small value match, and no value does not,
but every value matches a range between stars. -/
theorem sizes_match :
    let E : Evaluator (List Value) := fun vs _ => .ok (.list vs)
    let c : Condition := .range { lt := some (.long 3), gte := some (.long 5) }
    ∃ p, (leaf "size" c).compile E Instant.earliest = .ok p ∧ ¬ c.Unbounded ∧
      p [.long 1, .long 10] = .ok true ∧
      (∃ d ∈ c.demands, ∃ v ∈ E.extract [.long 1, .long 10] "size",
        d.Admits Instant.earliest v) ∧
      E.extract [] "size" = [] ∧ p [] = .ok false := by
  intro E c
  have hc : ¬ c.Unbounded := nofun
  have hcompile : (leaf "size" c).compile E Instant.earliest = .ok _ := rfl
  have hmatch := leaf_matches_iff hcompile
  refine ⟨_, rfl, hc, rfl, (hmatch [.long 1, .long 10]).2.2.1 hc rfl, rfl, ?_⟩
  obtain ⟨b, hb, hyes⟩ := (hmatch []).2.2.2.1 rfl
  cases b with
  | true => exact absurd (hyes.1 rfl) hc
  | false => exact hb

/-- A range between two stars is read as a leaf that matches a record without the field. -/
theorem open_range_matches_missing :
    ∃ q p, ofText "size:[* TO *]" none = .ok q ∧ q.field? = some "size" ∧
      q.compile Evaluator.json Instant.earliest = .ok p ∧
      Evaluator.json.extract (.obj []) "size" = [] ∧ p (.obj []) = .ok true := by
  refine ⟨.leaf "size" (.range {}), _, ?_, rfl, rfl, rfl, rfl⟩
  rfl

end Examples

end Query

end Sift
