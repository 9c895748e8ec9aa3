import Sift.Time.Literal

/-!
# Date expressions

An expression is the word `now` or a written date followed by two bars, and then operations, each
of which rounds to a unit or moves by some units. A written date may also stand alone. Rounding
goes to the start of a unit, or to its last millisecond where the caller asks for it; then a date
that stands alone is rounded to the unit down to which it was written.

## Main definitions

* `Sift.DateExpression.applyOps`: operations applied to a time.
* `Sift.DateExpression.evaluate`: the instant of an expression.
-/

set_option autoImplicit false

namespace Sift.DateExpression

/-- What surrounds operations. -/
structure Context where
  /-- The zone whose clocks they refer to. -/
  zone : Zone
  /-- Whether rounding goes up. -/
  roundUp : Bool
  /-- The whole expression, for messages. -/
  expression : String

/-- The part of an operation that has been read. -/
inductive Pending where
  /-- Nothing. -/
  | idle
  /-- The slash of a rounding. -/
  | rounding
  /-- The sign of a move, and digits of its amount, last one first. -/
  | moving (negative : Bool) (digits : List Char)
deriving DecidableEq, Repr

namespace Context

/-- Rounds a time. -/
def round (ctx : Context) (u : DateUnit) (t : ZonedTime) : Except DateError ZonedTime :=
  if ctx.roundUp then u.ceil t ctx.zone else u.floor t ctx.zone

/-- The amount of a move: one where there are no digits. -/
def amount (ctx : Context) (digits : List Char) : Except DateError Int :=
  if digits.isEmpty then .ok 1
  else
    let n := Numeral.ofDigits digits.reverse
    if n ≤ Int64.maxValue.toInt then .ok n else .error (.badAmount ctx.expression)

/-- Completes an operation with what stands at the place of its unit. -/
def complete (ctx : Context) (pending : Pending) (offset : Nat) (unit : Option DateUnit)
    (t : ZonedTime) : Except DateError ZonedTime :=
  let missing : Except DateError ZonedTime := .error (.expectedUnit offset ctx.expression)
  match pending with
  | .idle => .ok t
  | .rounding =>
    match unit with
    | some u => ctx.round u t
    | none => missing
  | .moving negative digits =>
    match ctx.amount digits with
    | .error e => .error e
    | .ok n =>
      match unit with
      | some u => u.add t (if negative then -n else n) ctx.zone
      | none => missing

end Context

/-- Reads and applies operations; `offset` is the number of characters before the text. -/
def scan (ctx : Context) (pending : Pending) (offset : Nat) (t : ZonedTime) :
    List Char → Except DateError ZonedTime
  | [] => ctx.complete pending offset none t
  | c :: rest =>
    match pending with
    | .idle =>
      if c = '/' then scan ctx .rounding (offset + 1) t rest
      else if c = '+' then scan ctx (.moving false []) (offset + 1) t rest
      else if c = '-' then scan ctx (.moving true []) (offset + 1) t rest
      else .error (.unexpected c ctx.expression)
    | .rounding =>
      match ctx.complete .rounding offset (DateUnit.ofSymbol? c) t with
      | .error e => .error e
      | .ok t => scan ctx .idle (offset + 1) t rest
    | .moving negative digits =>
      if Numeral.isDigit c then scan ctx (.moving negative (c :: digits)) (offset + 1) t rest
      else
        match ctx.complete (.moving negative digits) offset (DateUnit.ofSymbol? c) t with
        | .error e => .error e
        | .ok t => scan ctx .idle (offset + 1) t rest

/-- Applies operations to a time. -/
def applyOps (ctx : Context) (t : ZonedTime) (ops : List Char) : Except DateError ZonedTime :=
  scan ctx .idle 0 t ops

/-- The time that a date standing alone denotes. -/
def single (ctx : Context) (text : String) : Except DateError ZonedTime :=
  match DateLiteral.read ctx.zone text with
  | .error e => .error e
  | .ok (t, some u) => if ctx.roundUp then u.ceil t ctx.zone else .ok t
  | .ok (t, none) => .ok t

/-- The time of an expression without blanks at its ends. -/
def evaluateTrimmed (ctx : Context) (now : Instant) (cs : List Char) : Except DateError ZonedTime :=
  match Text.dropFront? ['n', 'o', 'w'] cs with
  | some ops => applyOps ctx (ctx.zone.localize now) ops
  | none =>
    match Text.splitOnce ['|', '|'] cs with
    | some (anchor, ops) =>
      match DateLiteral.read ctx.zone (String.ofList anchor) with
      | .error e => .error e
      | .ok (t, _) => applyOps ctx t ops
    | none => single ctx (String.ofList cs)

/-- The instant of an expression. -/
def evaluate (expression : String) (now : Instant) (roundUp : Bool) (zone : Zone) :
    Except DateError Instant :=
  let cs := Text.trimChars expression.toList
  if cs.isEmpty then .error .empty
  else (evaluateTrimmed ⟨zone, roundUp, String.ofList cs⟩ now cs).map ZonedTime.instant

end Sift.DateExpression
