import Mathlib.Tactic.Lemma
import Sift.QueryText.Parser

/-!
# The grammar of query texts

A query text is a disjunction of conjunctions of operands:

* `Or ::= And (OR And)*`,
* `And ::= Not ([AND] Not)*`,
* `Not ::= NOT Not | '(' Or ')' | clause`.

The derivations of the grammar are trees, of which one is read off from left to right: no list of
tokens has two derivations. The reader of queries accepts exactly those lists of tokens that have a
derivation in which negations and groups do not lie too deep in one another.

## Main definitions

* `Sift.QueryText.Disjunction`, `Sift.QueryText.Conjunction`, `Sift.QueryText.Operand`: derivations.
* `Sift.QueryText.Disjunction.tokens`: the tokens of a derivation.
* `Sift.QueryText.Disjunction.depth`: how deep negations and groups lie in one another.
* `Sift.QueryText.Disjunction.query`: the query of a derivation.

## Main results

* `Sift.QueryText.Disjunction.read`: a derivation within the limit is read.
* `Sift.QueryText.ReadsOperands.disjunction`: what is read is a derivation within the limit.
* `Sift.QueryText.Disjunction.tokens_inj`: the grammar is unambiguous.
* `Sift.Query.ofTokens_iff`: the reader accepts exactly the grammar.
-/

set_option autoImplicit false

namespace Sift

namespace QueryText

/-! ## Derivations -/

mutual

/-- A derivation from `Or ::= And (OR And)*`. -/
inductive Disjunction where
  /-- The last part. -/
  | last (part : Conjunction)
  /-- A part, and more parts behind the operator that follows it. -/
  | or (part : Conjunction) (rest : Disjunction)

/-- A derivation from `And ::= Not ([AND] Not)*`. -/
inductive Conjunction where
  /-- The last operand. -/
  | last (operand : Operand)
  /-- An operand, and more operands behind the operator that may be written after it. -/
  | and (operand : Operand) (written : Bool) (rest : Conjunction)

/-- A derivation from `Not ::= NOT Not | '(' Or ')' | clause`. -/
inductive Operand where
  /-- A clause. -/
  | clause (clause : Clause)
  /-- A negation. -/
  | not (operand : Operand)
  /-- A group in parentheses. -/
  | group (inner : Disjunction)

end

/-- The operator between two operands, if it is written. -/
def operator (written : Bool) : List Token := if written then [.and] else []

mutual

/-- The tokens of a disjunction. -/
def Disjunction.tokens : Disjunction → List Token
  | .last c => c.tokens
  | .or c rest => c.tokens ++ .or :: rest.tokens

/-- The tokens of a conjunction. -/
def Conjunction.tokens : Conjunction → List Token
  | .last n => n.tokens
  | .and n w rest => n.tokens ++ (operator w ++ rest.tokens)

/-- The tokens of an operand. -/
def Operand.tokens : Operand → List Token
  | .clause c => [.clause c]
  | .not n => .not :: n.tokens
  | .group d => .opening :: (d.tokens ++ [.closing])

end

mutual

/-- How deep negations and groups lie in one another. Parts side by side do not add up. -/
def Disjunction.depth : Disjunction → Nat
  | .last c => c.depth
  | .or c rest => max c.depth rest.depth

/-- How deep negations and groups lie in one another. Operands side by side do not add up. -/
def Conjunction.depth : Conjunction → Nat
  | .last n => n.depth
  | .and n _ rest => max n.depth rest.depth

/-- How deep negations and groups lie in one another. -/
def Operand.depth : Operand → Nat
  | .clause _ => 0
  | .not n => n.depth + 1
  | .group d => d.depth + 1

end

mutual

/-- The query of a disjunction: that of its only part, or a disjunction of those of its parts. -/
def Disjunction.query (defaultField : String) : Disjunction → Query
  | .last c => c.query defaultField
  | .or c rest => .or (c.query defaultField :: rest.queries defaultField)

/-- The queries of the parts of a disjunction, in their order. -/
def Disjunction.queries (defaultField : String) : Disjunction → List Query
  | .last c => [c.query defaultField]
  | .or c rest => c.query defaultField :: rest.queries defaultField

/-- The query of a conjunction: that of its only operand, or a conjunction of those of its
operands. -/
def Conjunction.query (defaultField : String) : Conjunction → Query
  | .last n => n.query defaultField
  | .and n _ rest => .and (n.query defaultField :: rest.queries defaultField)

/-- The queries of the operands of a conjunction, in their order. -/
def Conjunction.queries (defaultField : String) : Conjunction → List Query
  | .last n => [n.query defaultField]
  | .and n _ rest => n.query defaultField :: rest.queries defaultField

/-- The query of an operand. -/
def Operand.query (defaultField : String) : Operand → Query
  | .clause c => c.toQuery defaultField
  | .not n => .not [n.query defaultField]
  | .group d => d.query defaultField

end

/-! ## What follows a derivation -/

/-- Tokens with which a conjunction does not go on. -/
def EndsConjunction : List Token → Prop
  | [] | .closing :: _ | .or :: _ => True
  | _ => False

/-- Tokens with which a disjunction does not go on. -/
def EndsDisjunction : List Token → Prop
  | [] | .closing :: _ => True
  | _ => False

/-- A disjunction ends with the tokens. -/
lemma EndsDisjunction.nil : EndsDisjunction [] := trivial

/-- A disjunction ends at a parenthesis that closes. -/
lemma EndsDisjunction.closing (ts : List Token) : EndsDisjunction (.closing :: ts) := trivial

/-- A conjunction ends at an "or". -/
lemma EndsConjunction.or (ts : List Token) : EndsConjunction (.or :: ts) := trivial

/-- What ends a disjunction ends its last conjunction. -/
lemma EndsDisjunction.endsConjunction {ts : List Token} (h : EndsDisjunction ts) :
    EndsConjunction ts := by
  unfold EndsDisjunction at h
  split at h
  · trivial
  · trivial
  · exact h.elim

/-- An operand ends nothing. -/
lemma Operand.not_ends (n : Operand) (ts : List Token) : ¬ EndsConjunction (n.tokens ++ ts) := by
  cases n <;> exact id

/-- An operand does not begin with an "and". -/
lemma Operand.ne_and (n : Operand) (ts us : List Token) : n.tokens ++ ts ≠ .and :: us := by
  cases n <;> simp [Operand.tokens]

/-- An operand has a token. -/
lemma Operand.length_pos (n : Operand) : 0 < n.tokens.length := by
  cases n <;> simp [Operand.tokens]

/-- A conjunction starts with an operand. -/
lemma Conjunction.exists_operand (c : Conjunction) :
    ∃ (n : Operand) (ts : List Token), c.tokens = n.tokens ++ ts := by
  cases c with
  | last n => exact ⟨n, [], (List.append_nil _).symm⟩
  | and n w rest => exact ⟨n, operator w ++ rest.tokens, rfl⟩

/-- Where operands follow, a conjunction goes on. -/
lemma not_ends_operator (w : Bool) (c : Conjunction) (ts : List Token) :
    ¬ EndsConjunction (operator w ++ (c.tokens ++ ts)) := by
  cases w with
  | true => exact id
  | false =>
    obtain ⟨n, us, hc⟩ := c.exists_operand
    rw [hc, List.append_assoc]
    exact n.not_ends (us ++ ts)

/-! ## Derivations are read -/

section Completeness

variable {defaultField : String} {operand : Reader}

/-- Where a conjunction ends, no operands follow. -/
lemma conjuncts_of_ends {ts : List Token} (h : EndsConjunction ts) (fuel : Nat) :
    conjuncts operand fuel ts = .ok ([], ts) := by
  cases fuel with
  | zero => rfl
  | succ fuel =>
    unfold EndsConjunction at h
    split at h
    · rfl
    · rfl
    · rfl
    · exact h.elim

/-- Where a disjunction ends, no conjunctions follow. -/
lemma disjuncts_of_ends {ts : List Token} (h : EndsDisjunction ts) (fuel : Nat) :
    disjuncts operand fuel ts = .ok ([], ts) := by
  cases fuel with
  | zero => rfl
  | succ fuel =>
    unfold EndsDisjunction at h
    split at h
    · rfl
    · rfl
    · exact h.elim

/-- One more operand is read, whether or not there is an operator before it. -/
lemma conjuncts_operand {fuel : Nat} (w : Bool) (n : Operand) {ts us rest : List Token}
    {q : Query} {qs : List Query} (hfirst : operand (n.tokens ++ ts) = .ok (q, us))
    (hmore : conjuncts operand fuel us = .ok (qs, rest)) :
    conjuncts operand (fuel + 1) (operator w ++ (n.tokens ++ ts)) = .ok (q :: qs, rest) := by
  cases w <;> cases n <;> simp_all [conjuncts, operator, Operand.tokens]

/-- One more part is read behind an operator. -/
lemma disjuncts_part {fuel : Nat} {ts us rest : List Token} {q : Query} {qs : List Query}
    (hfirst : conjunction operand ts = .ok (q, us))
    (hmore : disjuncts operand fuel us = .ok (qs, rest)) :
    disjuncts operand (fuel + 1) (.or :: ts) = .ok (q :: qs, rest) := by
  simp only [disjuncts, hfirst, hmore]

/-- An operand and a conjunction are joined, as they are at least two. -/
lemma Conjunction.join_cons (q : Query) (c : Conjunction) :
    join .and (q :: c.queries defaultField) = .and (q :: c.queries defaultField) := by
  cases c <;> rfl

/-- A conjunction and a disjunction are joined, as they are at least two. -/
lemma Disjunction.join_cons (q : Query) (d : Disjunction) :
    join .or (q :: d.queries defaultField) = .or (q :: d.queries defaultField) := by
  cases d <;> rfl

mutual

/-- An operand within the limit is read, whatever follows it.

**Proof sketch.** Induction on the derivation, together with the four theorems below. A negation
and a group take one level off the limit. Behind each operand and each part either more of them
follow, for which the induction hypothesis speaks, or something that ends them. -/
theorem Operand.read : ∀ (n : Operand) {k : Nat}, n.depth ≤ k → ∀ rest : List Token,
    negation defaultField k (n.tokens ++ rest) = .ok (n.query defaultField, rest)
  | .clause c, k, _, rest => by
    cases k <;> rfl
  | .not n, k, h, rest => by
    obtain ⟨k, rfl⟩ : ∃ m, k = m + 1 := ⟨k - 1, by simp only [Operand.depth] at h; omega⟩
    have hn := n.read (Nat.le_of_succ_le_succ h) rest
    simp only [Operand.tokens, List.cons_append, negation, hn, Operand.query]
  | .group d, k, h, rest => by
    obtain ⟨k, rfl⟩ : ∃ m, k = m + 1 := ⟨k - 1, by simp only [Operand.depth] at h; omega⟩
    have hd := d.read (Nat.le_of_succ_le_succ h) (.closing rest)
    simp only [Operand.tokens, List.cons_append, List.append_assoc, List.nil_append, negation, hd,
      Operand.query]

/-- A conjunction within the limit is read where it does not go on. -/
theorem Conjunction.read : ∀ (c : Conjunction) {k : Nat}, c.depth ≤ k → ∀ {rest : List Token},
    EndsConjunction rest →
    conjunction (negation defaultField k) (c.tokens ++ rest) = .ok (c.query defaultField, rest)
  | .last n, k, h, rest, hrest => by
    have hn := n.read h rest
    simp only [Conjunction.tokens, conjunction, hn, conjuncts_of_ends hrest, join,
      Conjunction.query]
  | .and n w more, k, h, rest, hrest => by
    have hn := n.read (Nat.max_le.1 h).1 (operator w ++ (more.tokens ++ rest))
    have hmore := more.readMore (Nat.max_le.1 h).2 w hrest (Nat.le_refl _)
    simp only [Conjunction.tokens, List.append_assoc, conjunction, hn, hmore, more.join_cons,
      Conjunction.query]

/-- The operands of a conjunction are read behind another one. -/
lemma Conjunction.readMore : ∀ (c : Conjunction) {k : Nat}, c.depth ≤ k → ∀ (w : Bool)
    {rest : List Token}, EndsConjunction rest → ∀ {fuel : Nat},
    (operator w ++ (c.tokens ++ rest)).length ≤ fuel →
    conjuncts (negation defaultField k) fuel (operator w ++ (c.tokens ++ rest)) =
      .ok (c.queries defaultField, rest)
  | .last n, k, h, w, rest, hrest, fuel, hfuel => by
    have hpos := n.length_pos
    simp only [Conjunction.tokens, List.length_append] at hfuel ⊢
    obtain ⟨fuel, rfl⟩ : ∃ m, fuel = m + 1 := ⟨fuel - 1, by omega⟩
    exact conjuncts_operand w n (n.read h rest) (conjuncts_of_ends hrest fuel)
  | .and n v more, k, h, w, rest, hrest, fuel, hfuel => by
    have hpos := n.length_pos
    simp only [Conjunction.tokens, List.length_append, List.append_assoc] at hfuel ⊢
    obtain ⟨fuel, rfl⟩ : ∃ m, fuel = m + 1 := ⟨fuel - 1, by omega⟩
    refine conjuncts_operand w n (n.read (Nat.max_le.1 h).1 _)
      (more.readMore (Nat.max_le.1 h).2 v hrest ?_)
    simp only [List.length_append]
    omega

/-- A disjunction within the limit is read where it does not go on. -/
theorem Disjunction.read : ∀ (d : Disjunction) {k : Nat}, d.depth ≤ k → ∀ {rest : List Token},
    EndsDisjunction rest →
    disjunction (negation defaultField k) (d.tokens ++ rest) = .ok (d.query defaultField, rest)
  | .last c, k, h, rest, hrest => by
    have hc := c.read h hrest.endsConjunction
    simp only [Disjunction.tokens, disjunction, hc, disjuncts_of_ends hrest, join,
      Disjunction.query]
  | .or c more, k, h, rest, hrest => by
    have hc := c.read (Nat.max_le.1 h).1 (.or (more.tokens ++ rest))
    have hmore := more.readMore (Nat.max_le.1 h).2 hrest (Nat.le_refl _)
    simp only [Disjunction.tokens, List.append_assoc, List.cons_append, disjunction, hc, hmore,
      more.join_cons, Disjunction.query]

/-- The parts of a disjunction are read behind another one. -/
lemma Disjunction.readMore : ∀ (d : Disjunction) {k : Nat}, d.depth ≤ k →
    ∀ {rest : List Token}, EndsDisjunction rest → ∀ {fuel : Nat},
    (.or :: (d.tokens ++ rest)).length ≤ fuel →
    disjuncts (negation defaultField k) fuel (.or :: (d.tokens ++ rest)) =
      .ok (d.queries defaultField, rest)
  | .last c, k, h, rest, hrest, fuel, hfuel => by
    simp only [List.length_cons] at hfuel
    obtain ⟨fuel, rfl⟩ : ∃ m, fuel = m + 1 := ⟨fuel - 1, by omega⟩
    exact disjuncts_part (c.read h hrest.endsConjunction) (disjuncts_of_ends hrest fuel)
  | .or c more, k, h, rest, hrest, fuel, hfuel => by
    simp only [Disjunction.tokens, List.length_cons, List.length_append, List.append_assoc,
      List.cons_append] at hfuel ⊢
    obtain ⟨fuel, rfl⟩ : ∃ m, fuel = m + 1 := ⟨fuel - 1, by omega⟩
    refine disjuncts_part (c.read (Nat.max_le.1 h).1 (.or _))
      (more.readMore (Nat.max_le.1 h).2 hrest ?_)
    simp only [List.length_cons, List.length_append]
    omega

end

end Completeness

/-! ## What is read is a derivation -/

section Soundness

/-- A reader that goes on behind what another one has read succeeds if both do. -/
lemma exists_ok_of_both {α : Type} {first : Except QueryTextError (Query × List Token)}
    {more : List Token → Except QueryTextError (List Query × List Token)}
    {combine : Query → List Query → α} {x : α} {rest : List Token}
    (h : (match first with
      | .error e => .error e
      | .ok (q, ts) =>
        match more ts with
        | .error e => .error e
        | .ok (qs, ts) => .ok (combine q qs, ts)) =
      (.ok (x, rest) : Except QueryTextError (α × List Token))) :
    ∃ q ts qs, first = .ok (q, ts) ∧ more ts = .ok (qs, rest) ∧ x = combine q qs := by
  cases first with
  | error e => cases h
  | ok p =>
    obtain ⟨q, ts⟩ := p
    dsimp only at h
    cases hmore : more ts with
    | error e =>
      rw [hmore] at h
      cases h
    | ok p =>
      rw [hmore] at h
      cases h
      exact ⟨q, ts, _, rfl, hmore, rfl⟩

/-- A reader reads nothing but operands within a limit. -/
def ReadsOperands (defaultField : String) (k : Nat) (operand : Reader) : Prop :=
  ∀ ts q rest, operand ts = .ok (q, rest) →
    ∃ n : Operand, n.depth ≤ k ∧ n.query defaultField = q ∧ ts = n.tokens ++ rest

variable {defaultField : String} {k fuel : Nat} {operand : Reader} {ts rest : List Token}
  {q : Query} {qs : List Query}

/-- Either no operand follows, or one follows behind an operator that may be written. -/
lemma exists_ok_of_conjuncts (h : conjuncts operand (fuel + 1) ts = .ok (qs, rest)) :
    (qs = [] ∧ ts = rest) ∨ ∃ w us q us' qs', ts = operator w ++ us ∧ operand us = .ok (q, us') ∧
      conjuncts operand fuel us' = .ok (qs', rest) ∧ qs = q :: qs' := by
  rw [conjuncts.eq_def] at h
  dsimp only at h
  split at h
  · obtain ⟨q, us', qs', hfirst, hmore, rfl⟩ := exists_ok_of_both h
    exact .inr ⟨true, _, q, us', qs', rfl, hfirst, hmore, rfl⟩
  · obtain ⟨q, us', qs', hfirst, hmore, rfl⟩ := exists_ok_of_both h
    exact .inr ⟨false, _, q, us', qs', rfl, hfirst, hmore, rfl⟩
  · obtain ⟨q, us', qs', hfirst, hmore, rfl⟩ := exists_ok_of_both h
    exact .inr ⟨false, _, q, us', qs', rfl, hfirst, hmore, rfl⟩
  · obtain ⟨q, us', qs', hfirst, hmore, rfl⟩ := exists_ok_of_both h
    exact .inr ⟨false, _, q, us', qs', rfl, hfirst, hmore, rfl⟩
  · cases h
    exact .inl ⟨rfl, rfl⟩

/-- Either no part follows, or one follows behind an operator. -/
lemma exists_ok_of_disjuncts (h : disjuncts operand (fuel + 1) ts = .ok (qs, rest)) :
    (qs = [] ∧ ts = rest) ∨ ∃ us q us' qs', ts = .or :: us ∧
      conjunction operand us = .ok (q, us') ∧ disjuncts operand fuel us' = .ok (qs', rest) ∧
      qs = q :: qs' := by
  rw [disjuncts.eq_def] at h
  dsimp only at h
  split at h
  · obtain ⟨q, us', qs', hfirst, hmore, rfl⟩ := exists_ok_of_both h
    exact .inr ⟨_, q, us', qs', rfl, hfirst, hmore, rfl⟩
  · cases h
    exact .inl ⟨rfl, rfl⟩

namespace ReadsOperands

/-- The operands that are read behind another one. -/
lemma conjuncts (hop : ReadsOperands defaultField k operand)
    (h : QueryText.conjuncts operand fuel ts = .ok (qs, rest)) :
    (qs = [] ∧ ts = rest) ∨ ∃ (w : Bool) (c : Conjunction), c.depth ≤ k ∧
      c.queries defaultField = qs ∧ ts = operator w ++ (c.tokens ++ rest) := by
  induction fuel generalizing ts qs with
  | zero =>
    cases h
    exact .inl ⟨rfl, rfl⟩
  | succ fuel ih =>
    rcases exists_ok_of_conjuncts h with hend | ⟨w, us, q, us', qs', rfl, hfirst, hmore, rfl⟩
    · exact .inl hend
    · obtain ⟨n, hn, rfl, rfl⟩ := hop _ _ _ hfirst
      rcases ih hmore with ⟨rfl, rfl⟩ | ⟨v, c, hc, rfl, rfl⟩
      · exact .inr ⟨w, .last n, hn, rfl, rfl⟩
      · refine .inr ⟨w, .and n v c, Nat.max_le.2 ⟨hn, hc⟩, rfl, ?_⟩
        simp only [Conjunction.tokens, List.append_assoc]

/-- What is read as a conjunction. -/
lemma conjunction (hop : ReadsOperands defaultField k operand)
    (h : QueryText.conjunction operand ts = .ok (q, rest)) :
    ∃ c : Conjunction, c.depth ≤ k ∧ c.query defaultField = q ∧ ts = c.tokens ++ rest := by
  obtain ⟨q₁, us, qs, hfirst, hmore, rfl⟩ := exists_ok_of_both h
  obtain ⟨n, hn, rfl, rfl⟩ := hop _ _ _ hfirst
  rcases hop.conjuncts hmore with ⟨rfl, rfl⟩ | ⟨w, c, hc, rfl, rfl⟩
  · exact ⟨.last n, hn, rfl, rfl⟩
  · refine ⟨.and n w c, Nat.max_le.2 ⟨hn, hc⟩, (c.join_cons _).symm, ?_⟩
    simp only [Conjunction.tokens, List.append_assoc]

/-- The parts that are read behind another one. -/
lemma disjuncts (hop : ReadsOperands defaultField k operand)
    (h : QueryText.disjuncts operand fuel ts = .ok (qs, rest)) :
    (qs = [] ∧ ts = rest) ∨ ∃ d : Disjunction, d.depth ≤ k ∧ d.queries defaultField = qs ∧
      ts = .or :: (d.tokens ++ rest) := by
  induction fuel generalizing ts qs with
  | zero =>
    cases h
    exact .inl ⟨rfl, rfl⟩
  | succ fuel ih =>
    rcases exists_ok_of_disjuncts h with hend | ⟨us, q, us', qs', rfl, hfirst, hmore, rfl⟩
    · exact .inl hend
    · obtain ⟨c, hc, rfl, rfl⟩ := hop.conjunction hfirst
      rcases ih hmore with ⟨rfl, rfl⟩ | ⟨d, hd, rfl, rfl⟩
      · exact .inr ⟨.last c, hc, rfl, rfl⟩
      · refine .inr ⟨.or c d, Nat.max_le.2 ⟨hc, hd⟩, rfl, ?_⟩
        simp only [Disjunction.tokens, List.append_assoc, List.cons_append]

/-- What is read as a disjunction. -/
theorem disjunction (hop : ReadsOperands defaultField k operand)
    (h : QueryText.disjunction operand ts = .ok (q, rest)) :
    ∃ d : Disjunction, d.depth ≤ k ∧ d.query defaultField = q ∧ ts = d.tokens ++ rest := by
  obtain ⟨q₁, us, qs, hfirst, hmore, rfl⟩ := exists_ok_of_both h
  obtain ⟨c, hc, rfl, rfl⟩ := hop.conjunction hfirst
  rcases hop.disjuncts hmore with ⟨rfl, rfl⟩ | ⟨d, hd, rfl, rfl⟩
  · exact ⟨.last c, hc, rfl, rfl⟩
  · refine ⟨.or c d, Nat.max_le.2 ⟨hc, hd⟩, (d.join_cons _).symm, ?_⟩
    simp only [Disjunction.tokens, List.append_assoc, List.cons_append]

end ReadsOperands

/-- The reader of operands reads nothing but operands within its limit. The induction is on the
limit, which a negation and a group reduce for what they contain. -/
lemma readsOperands_negation (defaultField : String) (k : Nat) :
    ReadsOperands defaultField k (negation defaultField k) := by
  induction k with
  | zero =>
    intro ts q rest h
    unfold negation at h
    split at h
    · cases h
      exact ⟨.clause _, Nat.le_refl 0, rfl, rfl⟩
    all_goals cases h
  | succ k ih =>
    intro ts q rest h
    unfold negation at h
    split at h
    · cases h
      exact ⟨.clause _, Nat.zero_le _, rfl, rfl⟩
    · split at h
      · cases h
      · rename_i hn
        cases h
        obtain ⟨n, hdepth, rfl, rfl⟩ := ih _ _ _ hn
        exact ⟨.not n, Nat.succ_le_succ hdepth, rfl, rfl⟩
    · split at h
      · cases h
      · rename_i hd
        cases h
        obtain ⟨d, hdepth, rfl, rfl⟩ := ih.disjunction hd
        refine ⟨.group d, Nat.succ_le_succ hdepth, rfl, ?_⟩
        simp only [Operand.tokens, List.cons_append, List.append_assoc, List.nil_append]
      · cases h
    all_goals cases h

end Soundness

/-! ## The grammar is unambiguous -/

/-- Whether an operator is written can be seen. -/
lemma operator_inj {w w' : Bool} {c c' : Conjunction} {ts ts' : List Token}
    (h : operator w ++ (c.tokens ++ ts) = operator w' ++ (c'.tokens ++ ts')) :
    w = w' ∧ c.tokens ++ ts = c'.tokens ++ ts' := by
  obtain ⟨n, us, hc⟩ := c.exists_operand
  obtain ⟨n', us', hc'⟩ := c'.exists_operand
  cases w <;> cases w'
  · exact ⟨rfl, h⟩
  · rw [hc, List.append_assoc] at h
    exact absurd h (n.ne_and _ _)
  · rw [hc', List.append_assoc] at h
    exact absurd h.symm (n'.ne_and _ _)
  · exact ⟨rfl, List.tail_eq_of_cons_eq h⟩

mutual

/-- An operand can be read off the tokens that it starts.

**Proof sketch.** Induction on one of the two derivations, together with the two theorems below. The
first token tells clauses, negations and groups apart. Behind an operand, and behind a part, the
next token tells whether more of them follow. -/
theorem Operand.tokens_inj : ∀ (n n' : Operand) {ts ts' : List Token},
    n.tokens ++ ts = n'.tokens ++ ts' → n = n' ∧ ts = ts'
  | .clause c, n', ts, ts', h => by
    cases n' with
    | clause c' => simpa [Operand.tokens] using h
    | not _ | group _ => simp [Operand.tokens] at h
  | .not n, n', ts, ts', h => by
    cases n' with
    | not n' =>
      obtain ⟨rfl, rfl⟩ := n.tokens_inj n' (List.tail_eq_of_cons_eq h)
      exact ⟨rfl, rfl⟩
    | clause _ | group _ => simp [Operand.tokens] at h
  | .group d, n', ts, ts', h => by
    cases n' with
    | group d' =>
      simp only [Operand.tokens, List.cons_append, List.append_assoc, List.nil_append] at h
      obtain ⟨rfl, hts⟩ := d.tokens_inj d' (.closing ts) (.closing ts') (List.tail_eq_of_cons_eq h)
      exact ⟨rfl, List.tail_eq_of_cons_eq hts⟩
    | clause _ | not _ => simp [Operand.tokens] at h

/-- A conjunction can be read off the tokens that it starts. -/
theorem Conjunction.tokens_inj : ∀ (c c' : Conjunction) {ts ts' : List Token},
    EndsConjunction ts → EndsConjunction ts' → c.tokens ++ ts = c'.tokens ++ ts' →
    c = c' ∧ ts = ts'
  | .last n, c', ts, ts', hts, hts', h => by
    cases c' with
    | last n' =>
      obtain ⟨rfl, rfl⟩ := n.tokens_inj n' h
      exact ⟨rfl, rfl⟩
    | and n' w' rest' =>
      simp only [Conjunction.tokens, List.append_assoc] at h
      obtain ⟨rfl, rfl⟩ := n.tokens_inj n' h
      exact absurd hts (not_ends_operator w' rest' ts')
  | .and n w rest, c', ts, ts', hts, hts', h => by
    cases c' with
    | last n' =>
      simp only [Conjunction.tokens, List.append_assoc] at h
      obtain ⟨rfl, rfl⟩ := n.tokens_inj n' h
      exact absurd hts' (not_ends_operator w rest ts)
    | and n' w' rest' =>
      simp only [Conjunction.tokens, List.append_assoc] at h
      obtain ⟨rfl, hmore⟩ := n.tokens_inj n' h
      obtain ⟨rfl, hrest⟩ := operator_inj hmore
      obtain ⟨rfl, rfl⟩ := rest.tokens_inj rest' hts hts' hrest
      exact ⟨rfl, rfl⟩

/-- **The grammar is unambiguous.** A disjunction can be read off the tokens that it starts. -/
theorem Disjunction.tokens_inj : ∀ (d d' : Disjunction) {ts ts' : List Token},
    EndsDisjunction ts → EndsDisjunction ts' → d.tokens ++ ts = d'.tokens ++ ts' →
    d = d' ∧ ts = ts'
  | .last c, d', ts, ts', hts, hts', h => by
    cases d' with
    | last c' =>
      obtain ⟨rfl, rfl⟩ := c.tokens_inj c' hts.endsConjunction hts'.endsConjunction h
      exact ⟨rfl, rfl⟩
    | or c' rest' =>
      simp only [Disjunction.tokens, List.append_assoc, List.cons_append] at h
      obtain ⟨rfl, rfl⟩ := c.tokens_inj c' hts.endsConjunction (.or _) h
      exact hts.elim
  | .or c rest, d', ts, ts', hts, hts', h => by
    cases d' with
    | last c' =>
      simp only [Disjunction.tokens, List.append_assoc, List.cons_append] at h
      obtain ⟨rfl, rfl⟩ := c.tokens_inj c' (.or _) hts'.endsConjunction h
      exact hts'.elim
    | or c' rest' =>
      simp only [Disjunction.tokens, List.append_assoc, List.cons_append] at h
      obtain ⟨rfl, hmore⟩ := c.tokens_inj c' (.or _) (.or _) h
      obtain ⟨rfl, rfl⟩ := rest.tokens_inj rest' hts hts' (List.tail_eq_of_cons_eq hmore)
      exact ⟨rfl, rfl⟩

end

end QueryText

/-! ## The reader of queries -/

namespace Query

open QueryText

/-- A list of tokens is a query exactly if it has a derivation within the limit. -/
lemma ofTokens_eq_ok_iff {defaultField text : String} {ts : List Token} {q : Query} :
    ofTokens defaultField text ts = .ok q ↔
      ∃ d : Disjunction, d.tokens = ts ∧ d.depth ≤ maxNesting ∧ d.query defaultField = q := by
  constructor
  · intro h
    unfold ofTokens at h
    split at h
    · cases h
    · rename_i hread
      cases h
      obtain ⟨d, hdepth, hquery, htokens⟩ :=
        (readsOperands_negation defaultField maxNesting).disjunction hread
      exact ⟨d, (htokens.trans (List.append_nil _)).symm, hdepth, hquery⟩
    · cases h
  · rintro ⟨d, rfl, hdepth, rfl⟩
    have hread : readTokens defaultField d.tokens = .ok (d.query defaultField, []) := by
      have hd : disjunction (negation defaultField maxNesting) (d.tokens ++ []) =
          .ok (d.query defaultField, []) := d.read hdepth .nil
      rwa [List.append_nil] at hd
    rw [ofTokens, hread]

/-- **The reader accepts exactly the grammar.** A list of tokens is read as a query if it has a
derivation in which negations and groups do not lie deeper in one another than the limit; there is
only one derivation then, and the query is the one of the derivation. Every other list of tokens is
answered by a failure to parse. -/
theorem ofTokens_iff (defaultField text : String) (ts : List Token) :
    (∀ q, (ofTokens defaultField text ts).mapError QueryTextError.toError = .ok q ↔
      ∃ d : Disjunction, (∀ d' : Disjunction, d'.tokens = ts ↔ d' = d) ∧ d.depth ≤ maxNesting ∧
        d.query defaultField = q) ∧
    ((∃ reason, (ofTokens defaultField text ts).mapError QueryTextError.toError =
        .error (.parse reason)) ↔
      ¬ ∃ d : Disjunction, d.tokens = ts ∧ d.depth ≤ maxNesting) := by
  have hunique : ∀ d : Disjunction, d.tokens = ts →
      ∀ d' : Disjunction, d'.tokens = ts ↔ d' = d := by
    intro d hd d'
    constructor
    · intro hd'
      exact (d'.tokens_inj d .nil .nil (by rw [hd, hd'])).1
    · rintro rfl
      exact hd
  cases hread : ofTokens defaultField text ts with
  | ok q =>
    obtain ⟨d, hd, hdepth, hquery⟩ := ofTokens_eq_ok_iff.1 hread
    refine ⟨fun q' => ⟨?_, ?_⟩, ⟨?_, fun hnone => absurd ⟨d, hd, hdepth⟩ hnone⟩⟩
    · intro hq
      exact ⟨d, hunique d hd, hdepth, hquery.trans (Except.ok.inj hq)⟩
    · rintro ⟨d', hd', -, rfl⟩
      rw [← hquery, (hd' d).1 hd]
      rfl
    · rintro ⟨reason, hreason⟩
      cases hreason
  | error e =>
    have hnone : ¬ ∃ d : Disjunction, d.tokens = ts ∧ d.depth ≤ maxNesting := by
      rintro ⟨d, hd, hdepth⟩
      rw [ofTokens_eq_ok_iff.2 ⟨d, hd, hdepth, rfl⟩] at hread
      cases hread
    refine ⟨fun q => ⟨nofun, ?_⟩, ⟨fun _ => hnone, fun _ => ⟨e.message, rfl⟩⟩⟩
    rintro ⟨d, hd, hdepth, -⟩
    exact absurd ⟨d, (hd d).2 rfl, hdepth⟩ hnone

end Query

end Sift
