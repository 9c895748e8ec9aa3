import Sift.Error
import Sift.Geo.Point
import Sift.Number.Exact

/-!
# Cells of the globe

The globe is cut in halves again and again, by longitude and by latitude in turn. The sides on
which a place lies make up a binary word; five sides make one character, and a word of characters
names a cell. The first characters of a name are the name of a larger cell around it. Ends and
middles of the stretches are exact fractions.

## Main definitions

* `Sift.Stretch`: a part of an axis, with its two halves.
* `Sift.GeoPoint.sides`: the sides on which a place lies.
* `Sift.GeoPoint.cell`: the name of the cell of a place.
-/

set_option autoImplicit false

namespace Sift

/-- A part of an axis. -/
structure Stretch where
  /-- The lower end. -/
  lower : Rat
  /-- The upper end. -/
  upper : Rat
deriving DecidableEq, Repr

namespace Stretch

/-- All longitudes. -/
def longitudes : Stretch := ⟨-180, 180⟩

/-- All latitudes. -/
def latitudes : Stretch := ⟨-90, 90⟩

/-- The point half-way between the ends. -/
def middle (s : Stretch) : Rat := (s.lower + s.upper) / 2

/-- The upper or the lower half. -/
def half (s : Stretch) (upperHalf : Bool) : Stretch :=
  if upperHalf then { s with lower := s.middle } else { s with upper := s.middle }

/-- Whether a coordinate belongs to the upper half, as the middle does. -/
def side (s : Stretch) (x : Double) : Bool := x.reaches s.middle

/-- The sides on which two coordinates lie when their stretches are halved in turn, that of the
first one to begin with. -/
def sides (x y : Double) (s t : Stretch) : Nat → List Bool
  | 0 => []
  | n + 1 => s.side x :: sides y x t (s.half (s.side x)) n

end Stretch

/-- The characters of cell names: digits and lower-case letters without `a`, `i`, `l` and `o`. -/
def cellAlphabet : List Char := "0123456789bcdefghjkmnpqrstuvwxyz".toList

/-- The number with the given binary digits, the highest one first. -/
def ofSides (sides : List Bool) : Nat := sides.foldl (fun n b => 2 * n + b.toNat) 0

/-- The character for five sides. -/
def cellChar (sides : List Bool) : Char := cellAlphabet[ofSides sides]?.getD '0'

/-- The characters for sides taken five at a time. -/
def cellName : Nat → List Bool → List Char
  | 0, _ => []
  | n + 1, sides => cellChar (sides.take 5) :: cellName n (sides.drop 5)

/-- The greatest number of characters of a name. -/
def maxCellPrecision : Nat := 12

namespace GeoPoint

/-- The sides on which a place lies, longitude first. -/
def sides (p : GeoPoint) (n : Nat) : List Bool :=
  Stretch.sides p.lon p.lat .longitudes .latitudes n

/-- The name, of so many characters, of the cell in which a place lies. -/
def cell (p : GeoPoint) (precision : Nat) : Except Error String :=
  if precision = 0 ∨ maxCellPrecision < precision then
    .error (.invalidQuery ("Geohash precision must be between 1 and " ++
      toString maxCellPrecision ++ ", got " ++ toString precision))
  else .ok (String.ofList (cellName precision (p.sides (5 * precision))))

end GeoPoint

end Sift
