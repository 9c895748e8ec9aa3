import Sift.Error
import Sift.QueryText.Token

/-!
# Why a query text is rejected

## Main definitions

* `Sift.QueryTextError`: the causes.
* `Sift.QueryTextError.message`: their wording.
-/

set_option autoImplicit false

namespace Sift

/-- Why a text is no query. -/
inductive QueryTextError where
  /-- There are only blanks. -/
  | empty
  /-- No token fits at some place. -/
  | unreadable (rest text : String)
  /-- An operand is missing before a token. -/
  | unexpected (token : Token)
  /-- A token follows a complete query. -/
  | trailing (token : Token) (text : String)
  /-- An operand is missing at the end. -/
  | unfinished
  /-- A parenthesis is not closed. -/
  | unbalanced
  /-- Groups and negations lie deeper in one another than the limit allows. -/
  | tooDeep (limit : Nat)
deriving DecidableEq, Repr

namespace QueryTextError

/-- The wording of a cause. -/
def message : QueryTextError → String
  | empty => "Empty query"
  | unreadable rest text => "Unexpected input at '" ++ rest ++ "' in '" ++ text ++ "'"
  | unexpected token => "Unexpected " ++ token.label
  | trailing token text => "Unexpected " ++ token.label ++ " in '" ++ text ++ "'"
  | unfinished => "Unexpected end of query"
  | unbalanced => "Unbalanced parentheses"
  | tooDeep limit => "Query nested deeper than " ++ toString limit ++ " levels"

/-- The failure that a cause amounts to. -/
def toError (e : QueryTextError) : Error := .parse e.message

end QueryTextError

end Sift
