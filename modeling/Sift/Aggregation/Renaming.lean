import Sift.Aggregation.Basic
import Sift.Query.Substitution

/-!
# Renaming the fields of aggregations

## Main definitions

* `Sift.Aggregation.rename`: gives the fields of aggregations and of their filters other names.
-/

set_option autoImplicit false

namespace Sift

/-- The kind with other names for its field or the fields of its filters. -/
def AggregationKind.rename (f : String → String) : AggregationKind → AggregationKind
  | onField field g => onField (f field) g
  | filters fs => filters (fs.map fun e => (e.1, e.2.rename f))
  | named name => named name

namespace Aggregation

mutual

/-- The aggregation with other names for its fields, and for those of the aggregations inside. -/
def rename (f : String → String) : Aggregation → Aggregation
  | ⟨key, kind, aggs, extensions, least⟩ =>
    ⟨key, kind.rename f, renameAll f aggs, extensions, least⟩

/-- Several aggregations with other names for their fields. -/
def renameAll (f : String → String) : List Aggregation → List Aggregation
  | [] => []
  | a :: rest => rename f a :: renameAll f rest

end

/-- A list of aggregations is renamed one by one. -/
@[simp] theorem renameAll_eq_map (f : String → String) (as : List Aggregation) :
    renameAll f as = as.map (rename f) := by
  induction as with
  | nil => rfl
  | cons a rest ih => simp [renameAll, ih]

end Aggregation

end Sift
