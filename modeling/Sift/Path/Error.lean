import Sift.Error
import Sift.Json.Basic
import Sift.Text.Basic

/-!
# Why a path fails

A path can be malformed, or lead through a value that has no members or elements.

## Main definitions

* `Sift.PathError`: the causes.
* `Sift.PathError.message`: their wording.
-/

set_option autoImplicit false

namespace Sift

/-- Why a path cannot be read or followed. -/
inductive PathError where
  /-- The path has no segments. -/
  | empty
  /-- A bracket is not closed. -/
  | unclosed (path : String)
  /-- The text between brackets is no index. -/
  | invalidIndex (digits path : String)
  /-- A key is applied to a value that is neither an object nor a list. -/
  | keyOfScalar (key : String) (value : Json) (path : String)
  /-- An index is applied to a value that is not a list. -/
  | indexOfNonList (position : Nat) (value : Json) (path : String)

namespace PathError

/-- The wording of a cause. -/
def message : PathError → String
  | empty => "Empty path"
  | unclosed path => "Unclosed '[' in path '" ++ path ++ "'"
  | invalidIndex digits path => "Invalid index '" ++ digits ++ "' in path '" ++ path ++ "'"
  | keyOfScalar key value path =>
    "Cannot read key '" ++ key ++ "' of a non-object value " ++ value.render ++ " in path '" ++
      path ++ "'"
  | indexOfNonList position value path =>
    "Cannot index [" ++ toString position ++ "] into non-list value " ++ value.render ++
      " in path '" ++ path ++ "'"

/-- The failure that a cause amounts to. -/
def toError (e : PathError) : Error := .path e.message

end PathError

end Sift
