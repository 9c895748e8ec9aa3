import Mathlib.Control.Monad.Basic
import Sift.Proofs.DateOperations
import Sift.Time.Regions

/-!
# Operations behind operations

Operations that have been applied end where an operation ends: nothing of the last one is pending,
so that it takes up nothing of what is written behind it. Applying operations and those behind them
is therefore applying the former, and then the latter to the time that was reached.

That holds of failures as well. Only what they say of their place differs: it counts the characters
from the first operation on, and names the whole expression.

## Main definitions

* `Sift.DateError.moved`: a failure in a text that stands further behind.
* `Sift.DateError.Placeless`: an outcome whose failure speaks of no place.
* `Sift.DateExpression.step`: what one character does.

## Main results

* `Sift.DateExpression.scan_append`: what is scanned behind operations that were applied.
* `Sift.DateExpression.applyOps_append_eq`: the outcome of operations behind operations.
* `Sift.DateExpression.applyOps_append`: operations compose.
-/

set_option autoImplicit false

namespace Sift

variable {z : Zone} {t x : ZonedTime}

/-! ## Places of failures -/

/-- The failure in the same text, where `n` more characters stand in front of it and the whole
expression is another one. -/
def DateError.moved (n : Nat) (expression : String) : DateError → DateError
  | expectedUnit offset _ => expectedUnit (n + offset) expression
  | badAmount _ => badAmount expression
  | unexpected c _ => unexpected c expression
  | e => e

/-- An outcome whose failure speaks of no place. -/
def DateError.Placeless (o : Except DateError ZonedTime) : Prop :=
  ∀ n expression, o.mapError (DateError.moved n expression) = o

/-- The errors of clocks do not mention the expression. -/
lemma Zone.placeless_ofWall (z : Zone) (w : WallTime) : DateError.Placeless (z.ofWall w) := by
  intro n expression
  unfold ofWall
  cases z.ofWall? w with
  | some t => rfl
  | none =>
    cases z with
    | fixed offset => rfl
    | region r => cases (w.shift? 3600).bind (Zone.region r).ofWall? <;> rfl

namespace DateUnit

/-- The errors of rounding down do not mention the expression. -/
lemma placeless_floor (u : DateUnit) (t : ZonedTime) (z : Zone) :
    DateError.Placeless (u.floor t z) := by
  intro n expression
  unfold floor
  dsimp only
  split_ifs
  · rfl
  · rfl
  · exact Zone.placeless_ofWall _ _ n expression
  · exact Zone.placeless_ofWall _ _ n expression

/-- The errors of additions do not mention the expression. -/
lemma placeless_add (u : DateUnit) (t : ZonedTime) (k : Int) (z : Zone) :
    DateError.Placeless (u.add t k z) := by
  intro n expression
  unfold add
  cases (if u.isExact then u.seconds? else none) with
  | some length =>
    dsimp only
    cases t.instant.shift? (k * length) <;> rfl
  | none =>
    dsimp only
    split_ifs
    · rfl
    · cases u.wallAdd? (z.localize t.instant).wall k with
      | none => rfl
      | some w => exact Zone.placeless_ofWall z w n expression

/-- The errors of rounding up do not mention the expression. -/
lemma placeless_ceil (u : DateUnit) (t : ZonedTime) (z : Zone) :
    DateError.Placeless (u.ceil t z) := by
  intro n expression
  have hfloor := placeless_floor u t z n expression
  unfold ceil
  cases hstart : u.floor t z with
  | error e =>
    rw [hstart] at hfloor
    exact congrArg Except.error (Except.error.inj hfloor)
  | ok start =>
    have hadd := placeless_add u start 1 z n expression
    dsimp only
    cases hnext : u.add start 1 z with
    | error e =>
      rw [hnext] at hadd
      exact congrArg Except.error (Except.error.inj hadd)
    | ok next => rfl

end DateUnit

namespace DateExpression

variable {roundUp : Bool} {pending : Pending} {offset : Nat} {a : List Char}

/-- The errors of an operation do not mention the expression. -/
lemma Operation.placeless_apply (op : Operation) (z : Zone) (roundUp : Bool) (t : ZonedTime) :
    DateError.Placeless (op.apply z roundUp t) := by
  cases op with
  | round u =>
    unfold Operation.apply
    dsimp only
    split_ifs
    · exact u.placeless_ceil t z
    · exact u.placeless_floor t z
  | move n u => exact u.placeless_add t n z

/-! ## One character -/

/-- What a character makes of the pending part of an operation and the time reached so far. -/
def step (ctx : Context) (offset : Nat) (c : Char) :
    Pending × ZonedTime → Except DateError (Pending × ZonedTime)
  | (.idle, t) =>
    if c = '/' then .ok (.rounding, t)
    else if c = '+' then .ok (.moving false [], t)
    else if c = '-' then .ok (.moving true [], t)
    else .error (.unexpected c ctx.expression)
  | (.rounding, t) =>
    (ctx.complete .rounding offset (DateUnit.ofSymbol? c) t).map (Pending.idle, ·)
  | (.moving negative digits, t) =>
    if Numeral.isDigit c then .ok (.moving negative (c :: digits), t)
    else
      (ctx.complete (.moving negative digits) offset (DateUnit.ofSymbol? c) t).map
        (Pending.idle, ·)

/-- A text is scanned one character after the other. -/
lemma scan_cons (ctx : Context) (pending : Pending) (offset : Nat) (t : ZonedTime) (c : Char)
    (rest : List Char) :
    scan ctx pending offset t (c :: rest) =
      (step ctx offset c (pending, t)).bind fun (p, y) => scan ctx p (offset + 1) y rest := by
  rw [scan.eq_def]
  cases pending with
  | idle =>
    dsimp only [step]
    split_ifs <;> rfl
  | rounding =>
    dsimp only [step]
    cases ctx.complete .rounding offset (DateUnit.ofSymbol? c) t <;> rfl
  | moving negative digits =>
    dsimp only [step]
    split_ifs
    · rfl
    · cases ctx.complete (.moving negative digits) offset (DateUnit.ofSymbol? c) t <;> rfl

/-! ## Scanning in another place -/

/-- An amount is read alike in another expression, except for the text of the error. -/
lemma amount_moved (ctx : Context) (expression : String) (n : Nat) (digits : List Char) :
    Context.amount { ctx with expression := expression } digits =
      (ctx.amount digits).mapError (DateError.moved n expression) := by
  unfold Context.amount
  dsimp only
  split_ifs <;> rfl

/-- An operation is completed in another place as it is here. -/
lemma complete_moved (ctx : Context) (expression : String) (n : Nat) (pending : Pending)
    (offset : Nat) (unit : Option DateUnit) (t : ZonedTime) :
    Context.complete { ctx with expression := expression } pending (n + offset) unit t =
      (ctx.complete pending offset unit t).mapError (DateError.moved n expression) := by
  cases pending with
  | idle => rfl
  | rounding =>
    cases unit with
    | none => rfl
    | some u =>
      exact ((Operation.round u).placeless_apply ctx.zone ctx.roundUp t n expression).symm
  | moving negative digits =>
    unfold Context.complete
    dsimp only
    rw [amount_moved ctx expression n]
    cases ctx.amount digits with
    | error e => rfl
    | ok k =>
      cases unit with
      | none => rfl
      | some u =>
        exact ((Operation.move _ u).placeless_apply ctx.zone ctx.roundUp t n expression).symm

/-- A character does in another place what it does here. -/
lemma step_moved (ctx : Context) (expression : String) (n offset : Nat) (c : Char)
    (s : Pending × ZonedTime) :
    step { ctx with expression := expression } (n + offset) c s =
      (step ctx offset c s).mapError (DateError.moved n expression) := by
  have hend : ∀ pending unit t,
      (Context.complete { ctx with expression := expression } pending (n + offset) unit t).map
        (Pending.idle, ·) =
      ((ctx.complete pending offset unit t).map (Pending.idle, ·)).mapError
        (DateError.moved n expression) := by
    intro pending unit t
    rw [complete_moved ctx]
    cases ctx.complete pending offset unit t <;> rfl
  obtain ⟨pending, t⟩ := s
  cases pending with
  | idle =>
    dsimp only [step]
    split_ifs <;> rfl
  | rounding => exact hend _ _ t
  | moving negative digits =>
    dsimp only [step]
    split_ifs
    · rfl
    · exact hend _ _ t

/-- A text is scanned in another place as it is here. -/
lemma scan_moved (ctx : Context) (expression : String) (n : Nat) (pending : Pending)
    (offset : Nat) (t : ZonedTime) (cs : List Char) :
    scan { ctx with expression := expression } pending (n + offset) t cs =
      (scan ctx pending offset t cs).mapError (DateError.moved n expression) := by
  induction cs generalizing pending offset t with
  | nil => exact complete_moved ctx expression n pending offset none t
  | cons c rest ih =>
    rw [scan_cons, scan_cons, step_moved ctx]
    cases step ctx offset c (pending, t) with
    | error e => rfl
    | ok s => exact ih s.1 (offset + 1) s.2

/-! ## Operations behind operations -/

/-- Nothing is pending behind operations that were applied, so that what stands there is scanned
as operations of its own. -/
theorem scan_append {ctx : Context} (h : scan ctx pending offset t a = .ok x) (b : List Char) :
    scan ctx pending offset t (a ++ b) = scan ctx .idle (offset + a.length) x b := by
  induction a generalizing pending offset t with
  | nil =>
    cases pending with
    | idle => exact congrArg (scan ctx .idle offset · b) (Except.ok.inj h)
    | rounding =>
      obtain ⟨u, hu, -⟩ := complete_rounding_eq_ok_iff.1 h
      cases hu
    | moving negative digits =>
      obtain ⟨n, u, -, hu, -⟩ := complete_moving_eq_ok_iff.1 h
      cases hu
  | cons c rest ih =>
    have hlength : offset + (c :: rest).length = offset + 1 + rest.length :=
      Nat.add_right_comm offset rest.length 1
    rw [scan_cons] at h
    rw [List.cons_append, scan_cons, hlength]
    cases hstep : step ctx offset c (pending, t) with
    | error e =>
      rw [hstep] at h
      cases h
    | ok s =>
      rw [hstep] at h
      exact ih h

/-- **The outcome of operations behind operations.** It is the outcome of the operations behind,
applied to the time that the operations in front reach; a failure counts its place from the first
operation on. -/
theorem applyOps_append_eq {expression₀ : String}
    (h : applyOps ⟨z, roundUp, expression₀⟩ t a = .ok x) (expression expression' : String)
    (b : List Char) :
    applyOps ⟨z, roundUp, expression⟩ t (a ++ b) =
      (applyOps ⟨z, roundUp, expression'⟩ x b).mapError (DateError.moved a.length expression) := by
  have hfront : scan ⟨z, roundUp, expression⟩ .idle 0 t a = .ok x :=
    (scan_moved ⟨z, roundUp, expression₀⟩ expression 0 .idle 0 t a).trans
      (congrArg (Except.mapError _) h)
  calc applyOps ⟨z, roundUp, expression⟩ t (a ++ b)
      = scan ⟨z, roundUp, expression⟩ .idle (0 + a.length) x b := scan_append hfront b
    _ = scan ⟨z, roundUp, expression⟩ .idle (a.length + 0) x b := by rw [Nat.add_comm]
    _ = (applyOps ⟨z, roundUp, expression'⟩ x b).mapError (DateError.moved a.length expression) :=
      scan_moved ⟨z, roundUp, expression'⟩ expression a.length .idle 0 x b

/-- **Operations compose.** If the operations `a` take a time to `x`, then `a` followed by `b`
takes it where `b` takes `x`, and fails exactly if `b` fails at `x`; the failure is the same, but
counts its place from the front of `a`. The expressions that failures name may be any. -/
theorem applyOps_append {expression₀ : String}
    (h : applyOps ⟨z, roundUp, expression₀⟩ t a = .ok x) (expression expression' : String)
    (b : List Char) :
    (∀ y, applyOps ⟨z, roundUp, expression⟩ t (a ++ b) = .ok y ↔
      applyOps ⟨z, roundUp, expression'⟩ x b = .ok y) ∧
    ((∃ e, applyOps ⟨z, roundUp, expression⟩ t (a ++ b) = .error e) ↔
      ∃ e, applyOps ⟨z, roundUp, expression'⟩ x b = .error e) ∧
    ∀ e, applyOps ⟨z, roundUp, expression'⟩ x b = .error e →
      applyOps ⟨z, roundUp, expression⟩ t (a ++ b) = .error (e.moved a.length expression) := by
  rw [applyOps_append_eq h expression expression' b]
  cases applyOps ⟨z, roundUp, expression'⟩ x b with
  | error e => simp [Except.mapError]
  | ok y => simp [Except.mapError]

/-- The last millisecond of the day after the night in which New York changes its clocks, and then
the week a month before; a slash behind the first two operations has no unit. -/
theorem applyOps_append_march :
    let zone := Zone.region Regions.newYork
    let t : ZonedTime := ⟨⟨1710048600, 0⟩, -18000⟩
    let x : ZonedTime := ⟨⟨1710215999, 999000000⟩, -14400⟩
    applyOps ⟨zone, true, "now+1d/d"⟩ t "+1d/d".toList = .ok x ∧
      applyOps ⟨zone, true, "now+1d/d-1M/w"⟩ t ("+1d/d".toList ++ "-1M/w".toList) =
        .ok ⟨⟨1707713999, 999000000⟩, -18000⟩ ∧
      applyOps ⟨zone, true, "now+1d/d/"⟩ t ("+1d/d".toList ++ "/".toList) =
        .error (.expectedUnit 6 "now+1d/d/") := by
  intro zone t x
  have hfront : applyOps ⟨zone, true, "now+1d/d"⟩ t "+1d/d".toList = .ok x := by decide +kernel
  have hweek : applyOps ⟨zone, true, "now-1M/w"⟩ x "-1M/w".toList =
      .ok ⟨⟨1707713999, 999000000⟩, -18000⟩ := by decide +kernel
  have hslash : applyOps ⟨zone, true, "now/"⟩ x "/".toList = .error (.expectedUnit 1 "now/") := by
    decide +kernel
  exact ⟨hfront, ((applyOps_append hfront _ _ _).1 _).2 hweek,
    (applyOps_append hfront _ _ _).2.2 _ hslash⟩

end DateExpression

end Sift
