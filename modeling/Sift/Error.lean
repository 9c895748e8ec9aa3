/-!
# Failures

Every operation that can fail does so with an `Error`, which says what kind of failure it is and
what it concerns. Parts of the library with many causes of their own (paths, date expressions,
query texts) describe them by types of their own and hand on the description.

A computation may also end without any answer: a step that has no result, such as a division by
zero, breaks it off, and a recursion may have no end. These endings stand beside the failures so
that they are handed on like them, but nobody is told about them, and nothing recovers from them.

## Main definitions

* `Sift.Error`: the kinds of failure.
* `Sift.Error.message`: the text shown to the caller.
-/

set_option autoImplicit false

namespace Sift

/-- A failure: its kind, with a description where there is one. -/
inductive Error where
  /-- A named thing does not exist. -/
  | notFound (subject : String)
  /-- A query or aggregation cannot be executed as it stands. -/
  | unsupported (expression : String)
  /-- The store does not offer the operation. -/
  | notImplemented (operation : String)
  /-- A query or aggregation has an invalid part. -/
  | invalidQuery (reason : String)
  /-- A query text is not well formed. -/
  | parse (reason : String)
  /-- A date expression cannot be evaluated. -/
  | dateMath (reason : String)
  /-- A path cannot be followed in a record. -/
  | path (reason : String)
  /-- A configuration cannot be located. -/
  | config (reason : String)
  /-- A file cannot be read. -/
  | io
  /-- A JSON document does not have the wanted shape. -/
  | json
  /-- A YAML text is malformed or does not have the wanted shape. -/
  | yaml
  /-- A TOML text is malformed or does not have the wanted shape. -/
  | toml
  /-- A step has no result, and the computation is broken off without an answer. -/
  | crash
  /-- The computation has no end, and so no answer. -/
  | endless
deriving DecidableEq, Repr

namespace Error

/-- What the failure concerns, for the kinds that say so. -/
def detail? : Error → Option String
  | notFound s | unsupported s | notImplemented s | invalidQuery s | parse s | dateMath s
  | path s | config s => some s
  | io | json | yaml | toml | crash | endless => none

/-- The kind of failure in words; endings without an answer have only a name. -/
def label : Error → String
  | notFound _ => "Not found"
  | unsupported _ => "Unsupported expression"
  | notImplemented _ => "Not implemented"
  | invalidQuery _ => "Invalid query"
  | parse _ => "Parse error"
  | dateMath _ => "Date math error"
  | path _ => "Path error"
  | config _ => "Config error"
  | io => "IO error"
  | json => "JSON error"
  | yaml => "YAML error"
  | toml => "TOML error"
  | crash => "Crash"
  | endless => "Endless computation"

/-- The text shown to the caller: the kind and what it concerns. -/
def message (e : Error) : String :=
  match e.detail? with
  | some s => e.label ++ ": " ++ s
  | none => e.label

/-- Failures that are settled while records are matched and never reach the caller of a
store. -/
def isRecoverable : Error → Bool
  | path _ | dateMath _ => true
  | _ => false

/-- Whether a named thing was missing. -/
def isNotFound : Error → Bool
  | notFound _ => true
  | _ => false

end Error

end Sift
