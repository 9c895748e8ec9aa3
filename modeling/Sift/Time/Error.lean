import Sift.Error
import Sift.Time.Instant

/-!
# Why a date cannot be computed

## Main definitions

* `Sift.DateUnit`: units of time.
* `Sift.DateError`: the causes.
* `Sift.DateError.message`: their wording.
* `Sift.DateError.settle`: a computation that may fail without harm.
-/

set_option autoImplicit false

namespace Sift

/-- A unit of time. -/
inductive DateUnit where
  | year
  | month
  | week
  | day
  | hour
  | minute
  | second
deriving DecidableEq, Repr

namespace DateUnit

/-- The unit of a symbol. -/
def ofSymbol? (c : Char) : Option DateUnit :=
  match c with
  | 'y' => some year
  | 'M' => some month
  | 'w' => some week
  | 'd' => some day
  | 'h' | 'H' => some hour
  | 'm' => some minute
  | 's' => some second
  | _ => none

/-- The symbol of a unit. -/
def symbol : DateUnit → Char
  | year => 'y'
  | month => 'M'
  | week => 'w'
  | day => 'd'
  | hour => 'h'
  | minute => 'm'
  | second => 's'

/-- The name of a unit in messages. -/
def name : DateUnit → String
  | year => "Year"
  | month => "Month"
  | week => "Week"
  | day => "Day"
  | hour => "Hour"
  | minute => "Minute"
  | second => "Second"

/-- The symbol of a unit is read as the unit. -/
theorem ofSymbol?_symbol (u : DateUnit) : ofSymbol? u.symbol = some u := by
  cases u <;> rfl

end DateUnit

/-- Why a date cannot be computed. -/
inductive DateError where
  /-- An expression is empty. -/
  | empty
  /-- A text is no date. -/
  | unrecognized (text : String)
  /-- The clocks of a zone never show a time. -/
  | skipped (time : WallTime)
  /-- The start of a unit is out of range. -/
  | cannotRound (time : WallTime) (offset : Int) (unit : DateUnit)
  /-- A shifted time is out of range. -/
  | overflow (amount : Int) (unit : DateUnit)
  /-- There is no unit where one has to stand. -/
  | expectedUnit (offset : Nat) (expression : String)
  /-- An amount is too large. -/
  | badAmount (expression : String)
  /-- A character does not start an operation. -/
  | unexpected (c : Char) (expression : String)
  /-- The start of a bucket is out of range. -/
  | bucketOutOfRange (t : Instant)
  /-- The start of a bucket, in milliseconds, is no instant. -/
  | noBucketStart (millis : Int)
  /-- The year of the start of a bucket is out of range. -/
  | yearOutOfRange
  /-- The month at the start of a bucket is out of range. -/
  | invalidBucketMonth (year month : Int)
  /-- A text is no interval. -/
  | invalidInterval (text : String)
  /-- A step has no result: a clock cannot show a time, or a number does not fit in 64 bits. -/
  | crash
deriving DecidableEq, Repr

namespace DateError

/-- The wording of a cause. -/
def message : DateError → String
  | empty => "Empty date expression"
  | unrecognized text => "Unrecognized date '" ++ text ++ "'"
  | skipped t => "Invalid local time " ++ t.toText
  | cannotRound t offset unit =>
    "Cannot round " ++ t.toText ++ " " ++ offsetText offset ++ " to " ++ unit.name
  | overflow n unit => "Date overflow adding " ++ toString n ++ unit.symbol.toString
  | expectedUnit i expression =>
    "Expected a time unit at offset " ++ toString i ++ " in '" ++ expression ++ "'"
  | badAmount expression =>
    "Bad amount in '" ++ expression ++ "': number too large to fit in target type"
  | unexpected c expression =>
    "Unexpected '" ++ c.toString ++ "' in date math expression '" ++ expression ++ "'"
  | bucketOutOfRange t => "Bucket start out of range for " ++ t.toText
  | noBucketStart n => "Bucket start " ++ toString n ++ " out of range"
  | yearOutOfRange => "Year out of range"
  | invalidBucketMonth y m => "Invalid bucket month " ++ toString y ++ "-" ++ toString m
  | invalidInterval text => "Invalid interval '" ++ text ++ "'"
  | crash => Error.crash.message

/-- The failure that a cause amounts to. An interval is part of an aggregation. -/
def toError : DateError → Error
  | crash => .crash
  | invalidInterval text => .invalidQuery (invalidInterval text).message
  | e => .dateMath e.message

/-- The result of a computation, or nothing where it fails. A computation that is broken off leaves
nothing to go on with. -/
def settle {α : Type} : Except DateError α → Except Error (Option α)
  | .ok x => .ok (some x)
  | .error .crash => .error .crash
  | .error _ => .ok none

/-- Only a crash is handed on. -/
theorem settle_eq_error_iff {α : Type} {x : Except DateError α} {e : Error} :
    settle x = .error e ↔ x = .error .crash ∧ e = .crash := by
  rcases x with e' | a
  · cases e' <;> simp [settle, eq_comm]
  · simp [settle]

/-- What is left is the result. -/
theorem settle_eq_some_iff {α : Type} {x : Except DateError α} {a : α} :
    settle x = .ok (some a) ↔ x = .ok a := by
  rcases x with e' | b
  · cases e' <;> simp [settle]
  · simp [settle]

/-- Nothing is left of a failure other than a crash. -/
theorem settle_eq_none_iff {α : Type} {x : Except DateError α} :
    settle x = .ok none ↔ ∃ e, e ≠ .crash ∧ x = .error e := by
  rcases x with e' | b
  · cases e' <;> simp [settle]
  · simp [settle]

end DateError

end Sift
