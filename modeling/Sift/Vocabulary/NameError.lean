import Sift.QueryText.Error
import Sift.Time.Error

/-!
# Why a name has no meaning

## Main definitions

* `Sift.NameError`: the causes.
* `Sift.NameError.toError`: the failure that a cause amounts to.
-/

set_option autoImplicit false

namespace Sift

/-- Why what a name stands for cannot be put in its place. -/
inductive NameError where
  /-- There is no definition of the name. -/
  | unknown (name : String)
  /-- The aggregation of the name has no bucket with the key. -/
  | noBucket (name key : String)
  /-- The key of a bucket of numbers is no number. -/
  | notNumeric (name key : String)
  /-- The buckets of an aggregation of the kind cannot be selected. -/
  | notSelectable (name kind : String)
  /-- The definition of the name contains the name itself, and its expansion has no end. -/
  | endless (name : String)
  /-- The interval of the aggregation is none. -/
  | interval (cause : DateError)
  /-- A text in the definition is not well formed. -/
  | text (cause : Error)
deriving DecidableEq

namespace NameError

/-- The failure that a cause amounts to. -/
def toError : NameError → Error
  | unknown name => .notFound ("Named aggregation '" ++ name ++ "'")
  | noBucket name key => .notFound ("Bucket '" ++ key ++ "' of named aggregation '" ++ name ++ "'")
  | notNumeric name key =>
    .invalidQuery ("Histogram bucket '" ++ key ++ "' of '" ++ name ++ "' is not numeric")
  | notSelectable name kind =>
    .unsupported ("Named query over " ++ kind ++ " aggregation '" ++ name ++ "'")
  | endless _ => .endless
  | interval cause => cause.toError
  | text cause => cause

end NameError

end Sift
