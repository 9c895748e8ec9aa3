import Mathlib.Tactic.SplitIfs
import Sift.Proofs.Sequencing
import Sift.Time.Expression

/-!
# Operations of date expressions

The operations of an expression are read one after the other while they are applied. What is read
does not depend on what it is applied to, so that an expression is a list of operations, which are
applied in their order to the time in front of them.

## Main definitions

* `Sift.DateExpression.Operation`: operations.
* `Sift.DateExpression.Operation.run`: operations applied to a time.
* `Sift.DateExpression.operations?`: the operations that a text writes.
* `Sift.DateExpression.start?`: the time and the text in front of which it stands.

## Main results

* `Sift.DateExpression.scan_eq_ok_iff`: scanning a text is running its operations.
* `Sift.DateExpression.evaluate_eq_ok_iff_of_start?`: what an expression denotes, if it begins with
  a time.
* `Sift.DateExpression.exists_read_of_evaluate`: what it denotes otherwise.
-/

set_option autoImplicit false

namespace Sift.DateExpression

/-- An operation of a date expression. -/
inductive Operation where
  /-- Rounding to a unit. -/
  | round (u : DateUnit)
  /-- Moving by some units. -/
  | move (n : Int) (u : DateUnit)
deriving DecidableEq

namespace Operation

/-- Applies an operation to a time. -/
def apply (z : Zone) (roundUp : Bool) (t : ZonedTime) : Operation → Except DateError ZonedTime
  | round u => if roundUp then u.ceil t z else u.floor t z
  | move n u => u.add t n z

/-- Applies operations to a time, one after the other. -/
def run (z : Zone) (roundUp : Bool) (t : ZonedTime) : List Operation → Except DateError ZonedTime
  | [] => .ok t
  | op :: ops =>
    match op.apply z roundUp t with
    | .error e => .error e
    | .ok x => run z roundUp x ops

/-- A run takes the first operation, and then the others. -/
lemma run_cons_eq_ok_iff {z : Zone} {roundUp : Bool} {t x : ZonedTime} {op : Operation}
    {ops : List Operation} : run z roundUp t (op :: ops) = .ok x ↔
      ∃ y, op.apply z roundUp t = .ok y ∧ run z roundUp y ops = .ok x := by
  rw [run]
  cases op.apply z roundUp t with
  | error e => exact iff_of_false nofun fun ⟨_, h, _⟩ => nomatch h
  | ok y => exact ⟨fun h => ⟨y, rfl, h⟩, fun ⟨_, hy, h⟩ => Except.ok.inj hy ▸ h⟩

end Operation

/-- The amount of a move, from its digits, last one first. -/
def amount? (digits : List Char) : Option Int :=
  if digits.isEmpty then some 1
  else if Numeral.ofDigits digits.reverse ≤ Int64.maxValue.toInt then
    some (Numeral.ofDigits digits.reverse)
  else none

/-- The operations that a text writes behind the part of one that has been read. -/
def operations? (pending : Pending) : List Char → Option (List Operation)
  | [] => if pending = .idle then some [] else none
  | c :: rest =>
    match pending with
    | .idle =>
      if c = '/' then operations? .rounding rest
      else if c = '+' then operations? (.moving false []) rest
      else if c = '-' then operations? (.moving true []) rest
      else none
    | .rounding =>
      (DateUnit.ofSymbol? c).bind fun u => (operations? .idle rest).map (.round u :: ·)
    | .moving negative digits =>
      if Numeral.isDigit c then operations? (.moving negative (c :: digits)) rest
      else
        (amount? digits).bind fun n => (DateUnit.ofSymbol? c).bind fun u =>
          (operations? .idle rest).map (.move (if negative then -n else n) u :: ·)

variable {ctx : Context} {t x : ZonedTime} {offset : Nat} {cs : List Char}

/-- An amount is read if its digits are a number in range. -/
lemma amount_eq_ok_iff (ctx : Context) {digits : List Char} {n : Int} :
    ctx.amount digits = .ok n ↔ amount? digits = some n := by
  unfold Context.amount amount?
  dsimp only
  split_ifs <;> simp

/-- Rounding is completed by the symbol of a unit. -/
lemma complete_rounding_eq_ok_iff {unit : Option DateUnit} :
    ctx.complete .rounding offset unit t = .ok x ↔
      ∃ u, unit = some u ∧ (Operation.round u).apply ctx.zone ctx.roundUp t = .ok x := by
  cases unit with
  | none => exact iff_of_false nofun fun ⟨_, h, _⟩ => nomatch h
  | some u => exact ⟨fun h => ⟨u, rfl, h⟩, fun ⟨_, hu, h⟩ => Option.some.inj hu ▸ h⟩

/-- A move is completed by the symbol of a unit behind its amount. -/
lemma complete_moving_eq_ok_iff {negative : Bool} {digits : List Char} {unit : Option DateUnit} :
    ctx.complete (.moving negative digits) offset unit t = .ok x ↔
      ∃ n u, amount? digits = some n ∧ unit = some u ∧
        (Operation.move (if negative then -n else n) u).apply ctx.zone ctx.roundUp t = .ok x := by
  simp only [← amount_eq_ok_iff ctx]
  unfold Context.complete
  dsimp only
  cases ctx.amount digits with
  | error e => exact iff_of_false nofun fun ⟨_, _, h, _⟩ => nomatch h
  | ok n =>
    cases unit with
    | none => exact iff_of_false nofun fun ⟨_, _, _, h, _⟩ => nomatch h
    | some u =>
      constructor
      · exact fun h => ⟨n, u, rfl, rfl, h⟩
      · rintro ⟨n', u', hn, hu, h⟩
        obtain rfl := Except.ok.inj hn
        obtain rfl := Option.some.inj hu
        exact h

/-- **Scanning a text is running its operations.** -/
theorem scan_eq_ok_iff {pending : Pending} : scan ctx pending offset t cs = .ok x ↔
    ∃ ops, operations? pending cs = some ops ∧
      Operation.run ctx.zone ctx.roundUp t ops = .ok x := by
  induction cs generalizing pending offset t with
  | nil =>
    rw [scan, operations?]
    cases pending with
    | idle => simp [Context.complete, Operation.run]
    | rounding => simp [complete_rounding_eq_ok_iff]
    | moving negative digits => simp [complete_moving_eq_ok_iff]
  | cons c rest ih =>
    have hstep : ∀ o : Except DateError ZonedTime, (match o with
        | .error e => .error e
        | .ok y => scan ctx .idle (offset + 1) y rest) = Except.ok x ↔
        ∃ y, o = .ok y ∧ ∃ ops, operations? .idle rest = some ops ∧
          Operation.run ctx.zone ctx.roundUp y ops = .ok x := by
      intro o
      cases o with
      | error e => exact iff_of_false nofun fun ⟨_, h, _⟩ => nomatch h
      | ok y => exact ih.trans ⟨fun h => ⟨y, rfl, h⟩, fun ⟨_, hy, h⟩ => Except.ok.inj hy ▸ h⟩
    unfold scan operations?
    cases pending with
    | idle =>
      dsimp only
      split_ifs
      · exact ih
      · exact ih
      · exact ih
      · exact iff_of_false nofun fun ⟨_, h, _⟩ => nomatch h
    | rounding =>
      refine (hstep _).trans ?_
      simp only [complete_rounding_eq_ok_iff, Option.bind_eq_some_iff, Option.map_eq_some_iff]
      constructor
      · rintro ⟨y, ⟨u, hu, hy⟩, ops, hops, hx⟩
        exact ⟨_, ⟨u, hu, ops, hops, rfl⟩, Operation.run_cons_eq_ok_iff.2 ⟨y, hy, hx⟩⟩
      · rintro ⟨_, ⟨u, hu, ops, hops, rfl⟩, hx⟩
        obtain ⟨y, hy, hx⟩ := Operation.run_cons_eq_ok_iff.1 hx
        exact ⟨y, ⟨u, hu, hy⟩, ops, hops, hx⟩
    | moving negative digits =>
      dsimp only
      by_cases hdigit : Numeral.isDigit c = true
      · rw [if_pos hdigit, if_pos hdigit]
        exact ih
      · rw [if_neg hdigit, if_neg hdigit]
        refine (hstep _).trans ?_
        simp only [complete_moving_eq_ok_iff, Option.bind_eq_some_iff, Option.map_eq_some_iff]
        constructor
        · rintro ⟨y, ⟨n, u, hn, hu, hy⟩, ops, hops, hx⟩
          exact ⟨_, ⟨n, hn, u, hu, ops, hops, rfl⟩, Operation.run_cons_eq_ok_iff.2 ⟨y, hy, hx⟩⟩
        · rintro ⟨_, ⟨n, hn, u, hu, ops, hops, rfl⟩, hx⟩
          obtain ⟨y, hy, hx⟩ := Operation.run_cons_eq_ok_iff.1 hx
          exact ⟨y, ⟨n, u, hn, hu, hy⟩, ops, hops, hx⟩

/-! ## Expressions -/

/-- The time with which an expression begins and the text of its operations, unless the expression
is a written date alone. -/
def start? (z : Zone) (now : Instant) (cs : List Char) : Option (ZonedTime × List Char) :=
  match Text.dropFront? ['n', 'o', 'w'] cs with
  | some rest => some (z.localize now, rest)
  | none =>
    (Text.splitOnce ['|', '|'] cs).bind fun (anchor, rest) =>
      (DateLiteral.read z (String.ofList anchor)).toOption.map fun (t, _) => (t, rest)

/-- What an expression denotes, if it begins with a time. -/
theorem evaluate_eq_ok_iff_of_start? {e : String} {now s : Instant} {roundUp : Bool} {z : Zone}
    {rest : List Char} (h : start? z now (Text.trimChars e.toList) = some (t, rest)) :
    evaluate e now roundUp z = .ok s ↔ ∃ ops x, operations? .idle rest = some ops ∧
      Operation.run z roundUp t ops = .ok x ∧ x.instant = s := by
  unfold start? at h
  have hne : (Text.trimChars e.toList).isEmpty = false := by
    cases hcs : Text.trimChars e.toList with
    | nil =>
      rw [hcs] at h
      cases h
    | cons c rest => rfl
  have hops : ∀ (ctx : Context), ctx.zone = z → ctx.roundUp = roundUp →
      ((applyOps ctx t rest).map ZonedTime.instant = .ok s ↔
        ∃ ops x, operations? .idle rest = some ops ∧
          Operation.run z roundUp t ops = .ok x ∧ x.instant = s) := by
    rintro ctx rfl rfl
    constructor
    · intro hs
      obtain ⟨x, hx, hinstant⟩ := Sequencing.exists_ok_of_map hs
      obtain ⟨ops, hops, hrun⟩ := scan_eq_ok_iff.1 hx
      exact ⟨ops, x, hops, hrun, hinstant⟩
    · rintro ⟨ops, x, hops, hrun, rfl⟩
      have hscan : applyOps ctx t rest = .ok x := scan_eq_ok_iff.2 ⟨ops, hops, hrun⟩
      rw [hscan]
      rfl
  unfold evaluate evaluateTrimmed
  dsimp only
  rw [hne, if_neg Bool.false_ne_true]
  cases hword : Text.dropFront? ['n', 'o', 'w'] (Text.trimChars e.toList) with
  | some behind =>
    rw [hword] at h
    obtain ⟨rfl, rfl⟩ := Prod.mk.inj (Option.some.inj h)
    exact hops _ rfl rfl
  | none =>
    rw [hword] at h
    obtain ⟨⟨anchor, behind⟩, hsplit, hread⟩ := Option.bind_eq_some_iff.1 h
    obtain ⟨⟨t', p⟩, htime, hpair⟩ := Option.map_eq_some_iff.1 hread
    obtain ⟨rfl, rfl⟩ := Prod.mk.inj hpair
    dsimp only
    rw [hsplit]
    dsimp only
    cases hliteral : DateLiteral.read z (String.ofList anchor) with
    | error e =>
      rw [hliteral] at htime
      cases htime
    | ok y =>
      rw [hliteral] at htime
      obtain rfl := Option.some.inj htime
      exact hops _ rfl rfl

/-- What an expression denotes otherwise: a written date that stands alone. -/
theorem exists_read_of_evaluate {e : String} {now s : Instant} {roundUp : Bool} {z : Zone}
    (h : start? z now (Text.trimChars e.toList) = none) (hs : evaluate e now roundUp z = .ok s) :
    ∃ t p, DateLiteral.read z (Text.trim e) = .ok (t, p) ∧
      ((roundUp = false ∨ p = none) ∧ t.instant = s ∨
        ∃ u x, roundUp = true ∧ p = some u ∧ u.ceil t z = .ok x ∧ x.instant = s) := by
  unfold evaluate evaluateTrimmed at hs
  unfold start? at h
  dsimp only at hs
  split at hs
  · cases hs
  · obtain ⟨x, hx, rfl⟩ := Sequencing.exists_ok_of_map hs
    cases hword : Text.dropFront? ['n', 'o', 'w'] (Text.trimChars e.toList) with
    | some behind =>
      rw [hword] at h
      cases h
    | none =>
      rw [hword] at h hx
      dsimp only at h hx
      cases hsplit : Text.splitOnce ['|', '|'] (Text.trimChars e.toList) with
      | some pair =>
        rw [hsplit, Option.bind_some] at h
        rw [hsplit] at hx
        dsimp only at hx
        split at hx
        · cases hx
        · rename_i hread
          rw [hread] at h
          cases h
      | none =>
        rw [hsplit] at hx
        dsimp only [single] at hx
        split at hx
        · cases hx
        · rename_i t u hread
          split at hx
          · rename_i hup
            exact ⟨t, some u, hread, .inr ⟨u, x, hup, rfl, hx, rfl⟩⟩
          · rename_i hdown
            obtain rfl := Except.ok.inj hx
            exact ⟨t, some u, hread, .inl ⟨.inl (Bool.eq_false_iff.2 hdown), rfl⟩⟩
        · rename_i t hread
          obtain rfl := Except.ok.inj hx
          exact ⟨t, none, hread, .inl ⟨.inr rfl, rfl⟩⟩

end Sift.DateExpression
