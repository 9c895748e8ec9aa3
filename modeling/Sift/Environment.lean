import Sift.Sorting
import Sift.Time.Region

/-!
# What comes from outside

The changes of clocks all over the world are collected in a database, and the reasons why a text is
no regular expression are put into words by whoever reads it. What becomes of long lists whose
elements are in no order is left to the method of sorting, and depends on what is sorted. All these
change from one release to the next, so that they are parameters here: what holds, holds for all of
them.

## Main definitions

* `Sift.Environment`: the regions that are known, the words for refusals, and the outcomes of
  sorting what is in no order.
* `Sift.Environment.ofRegions`, `Sift.Environment.isolated`: environments in which only some regions
  are known, or none.
-/

set_option autoImplicit false

namespace Sift

/-- What comes from outside. -/
class Environment where
  /-- The clocks of the region that has an identifier. -/
  region? : String → Option Region
  /-- Why a text is refused as a regular expression. -/
  refusal : String → String
  /-- What becomes of groups that are in no order. -/
  groupDisorder : Sorting.Disorder
  /-- What becomes of records that are in no order. -/
  recordDisorder : Sorting.Disorder

/-- The environment in which only the given regions are known, refusals have no reasons, and sorting
is broken off by what is in no order. -/
@[reducible] def Environment.ofRegions (regions : List Region) : Environment where
  region? id := regions.find? fun r => r.id == id
  refusal _ := ""
  groupDisorder := .refused
  recordDisorder := .refused

/-- The environment in which no regions are known. -/
@[reducible] def Environment.isolated : Environment := ofRegions []

end Sift
