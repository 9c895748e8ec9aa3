import Sift.Path.Evaluator
import Sift.Pattern.Glob
import Sift.Pattern.Reader
import Sift.Query.Basic
import Sift.Time.Expression
import Sift.Value.Order

/-!
# Queries as predicates

A query is compiled once and then tested on many records. A leaf takes all values of its field and
matches if one of them meets its condition; the bounds of a range are met one by one, so that
different values may meet different bounds. Dates in bounds are computed when the query is
compiled, and dates in records when they are tested. Either computation may be broken off, and the
test with it; the parts of a query are asked one after the other, and only until one decides.

## Main definitions

* `Sift.Condition.compile`: the test of a condition on the values of a field.
* `Sift.Query.compile`: the predicate of a query.
* `Sift.Query.select`: the records that a predicate selects.
-/

set_option autoImplicit false

namespace Sift

/-- A side of a range. -/
inductive BoundSide where
  | lt
  | lte
  | gt
  | gte
deriving DecidableEq, Repr

namespace BoundSide

/-- Whether a value is on the right side of a bound, by how it compares with the bound. -/
def accepts (s : BoundSide) (o : Ordering) : Bool :=
  match s with
  | lt => o == .lt
  | lte => o != .gt
  | gt => o == .gt
  | gte => o != .lt

/-- Whether a date at the bound stands for the end of what it names. -/
def roundsUp : BoundSide → Bool
  | lte | gt => true
  | lt | gte => false

end BoundSide

namespace Bounds

/-- The bounds that are present. -/
def limits (b : Bounds) : List (BoundSide × Value) :=
  [(BoundSide.lt, b.lt), (.lte, b.lte), (.gt, b.gt), (.gte, b.gte)].filterMap fun (s, v) =>
    v.map fun v => (s, v)

end Bounds

namespace Value

/-- Whether some of the values, each by itself, meets every limit. -/
def meetLimits (limits : List (BoundSide × Value)) (values : List Value) : Bool :=
  limits.all fun (s, limit) => values.any fun v => s.accepts (v.compareBound limit)

/-- The milliseconds of a text that is a date expression; other values stay. -/
def resolveDate (now : Instant) (roundUp : Bool) (zone : Zone) (v : Value) : Except Error Value :=
  match v with
  | str s =>
    match DateError.settle (DateExpression.evaluate s now roundUp zone) with
    | .error e => .error e
    | .ok (some t) => .ok (long (Int64.ofInt t.millis))
    | .ok none => .ok v
  | v => .ok v

/-- Whether a text starts with the word for the present. -/
def isRelative (s : String) : Bool := (Text.dropFront? ['n', 'o', 'w'] s.toList).isSome

/-- The milliseconds of a record value that is a written date; other values stay. Texts that refer
to the present are no dates. -/
def recordDate (zone : Zone) (v : Value) : Except Error Value :=
  match v with
  | str s => if isRelative s then .ok v else v.resolveDate Instant.earliest false zone
  | v => .ok v

/-- Whether a pattern occurs in the text of a value that is not null. -/
def matchesPattern (p : Pattern) (v : Value) : Bool := !v.isNull && p.occursIn v.toText

end Value

namespace Condition

/-- The tokens of a phrase with single blanks between them. -/
def phraseText (tokens : List String) : String := " ".intercalate tokens

/-- The glob of a phrase. -/
def phraseGlob (tokens : List String) : Glob := Glob.literal (phraseText tokens)

/-- The glob of a start. -/
def startGlob (text : String) : Glob := Glob.literal text ++ [.run]

/-- The glob of a pattern that may occur anywhere. -/
def wildcardGlob (pattern : String) : Glob := .run :: Glob.ofText pattern ++ [.run]

/-- The test whether some value passes a test of its own, which always has an answer. -/
def someValue (f : Value → Bool) (vs : List Value) : Except Error Bool := .ok (vs.any f)

/-- The bounds of a range of dates, in milliseconds where they are dates. -/
def dateLimits (now : Instant) (zone : Zone) (b : Bounds) :
    Except Error (List (BoundSide × Value)) :=
  b.limits.mapM fun (s, v) => (v.resolveDate now s.roundsUp zone).map fun v => (s, v)

/-- The test whether dates lie within bounds. The dates of all values are computed first. -/
def datesWithin (zone : Zone) (limits : List (BoundSide × Value)) (vs : List Value) :
    Except Error Bool :=
  (vs.mapM (Value.recordDate zone)).map (Value.meetLimits limits)

variable [Environment]

/-- The failure of a regular expression that is malformed or too large. -/
def invalidPattern (regex : String) : Error :=
  .invalidQuery ("Invalid pattern '" ++ regex ++ "': " ++
    Environment.refusal (String.ofList (Pattern.anchored regex)))

/-- The test whether a regular expression matches the whole text of a value that is not null. -/
def compileRegex (regex : String) : Except Error (List Value → Except Error Bool) :=
  match Pattern.fullMatch? regex with
  | some pattern => .ok (someValue (Value.matchesPattern pattern))
  | none => .error (invalidPattern regex)

/-- The test of a condition on the values of its field. -/
def compile (now : Instant) : Condition → Except Error (List Value → Except Error Bool)
  | term t => .ok (someValue fun v => v.matchesTerm t)
  | terms ts => .ok (someValue fun v => ts.any fun t => v.matchesTerm t)
  | phrase tokens => compileRegex (phraseGlob tokens).regex
  | startsWith s => compileRegex (startGlob s).regex
  | wildcard g =>
    if g = "*" then .ok (someValue fun v => !v.isNull)
    else compileRegex (wildcardGlob g).regex
  | regex p => compileRegex p
  | range b => .ok fun vs => .ok (Value.meetLimits b.limits vs)
  | dateRange b tz =>
    let zone := Zone.ofIdOrUtc tz
    match dateLimits now zone b with
    | .error e => .error e
    | .ok limits => .ok (datesWithin zone limits)

end Condition

namespace Query

variable {R : Type}

/-- The records that a predicate selects, in their order. -/
def select (p : R → Except Error Bool) : List R → Except Error (List R)
  | [] => .ok []
  | r :: rest =>
    match p r with
    | .error e => .error e
    | .ok selected =>
      match select p rest with
      | .error e => .error e
      | .ok kept => .ok (if selected then r :: kept else kept)

/-- The failure of a query that stands for another one and has not been replaced by it. -/
def unexpanded (q : Query) : Error :=
  .unsupported (q.kind ++ " query must be expanded before execution")

variable [Environment]

mutual

/-- The predicate of a query at an instant that is taken for the present. -/
def compile (E : Evaluator R) (now : Instant) : Query → Except Error (R → Except Error Bool)
  | and of =>
    match compileAll E now of with
    | .error e => .error e
    | .ok ps => .ok fun r => ps.allM fun p => p r
  | or of =>
    match compileAll E now of with
    | .error e => .error e
    | .ok ps => .ok fun r => ps.anyM fun p => p r
  | not of =>
    match compileAll E now of with
    | .error e => .error e
    | .ok ps => .ok fun r => Except.map Bool.not (ps.anyM fun p => p r)
  | leaf f c =>
    match c.compile now with
    | .error e => .error e
    | .ok test => .ok fun r => test (E.extract r f)
  | text s d => .error (unexpanded (text s d))
  | named n v => .error (unexpanded (named n v))
  | matchAll => .ok fun _ => .ok true

/-- The predicates of several queries, or the first failure. -/
def compileAll (E : Evaluator R) (now : Instant) :
    List Query → Except Error (List (R → Except Error Bool))
  | [] => .ok []
  | q :: rest =>
    match compile E now q with
    | .error e => .error e
    | .ok p =>
      match compileAll E now rest with
      | .error e => .error e
      | .ok ps => .ok (p :: ps)

end

end Query

end Sift
