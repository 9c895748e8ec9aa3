import Sift.Geo.Point
import Sift.Value.Basic

/-!
# Figures about several places

## Main definitions

* `Sift.GeoPoint.extent?`: the corners around places.
* `Sift.GeoPoint.centroid?`: the mean of places.
-/

set_option autoImplicit false

namespace Sift.GeoPoint

/-- A place as a value. -/
def toValue (p : GeoPoint) : Value := .map [("lat", .double p.lat), ("lon", .double p.lon)]

/-- The north-western and the south-eastern corner around two pairs of corners. -/
def around (a b : GeoPoint × GeoPoint) : GeoPoint × GeoPoint :=
  (⟨a.1.lat.greater b.1.lat, a.1.lon.lesser b.1.lon⟩,
    ⟨a.2.lat.lesser b.2.lat, a.2.lon.greater b.2.lon⟩)

/-- The north-western and the south-eastern corner around places, if there are any. -/
def extent? : List GeoPoint → Option (GeoPoint × GeoPoint)
  | [] => none
  | p :: rest => some (rest.foldl (fun corners q => around corners (q, q)) (p, p))

/-- The corners around places as a value, null if there are no places. -/
def extentValue (ps : List GeoPoint) : Value :=
  match extent? ps with
  | some (topLeft, bottomRight) =>
    .map [("bottom_right", bottomRight.toValue), ("top_left", topLeft.toValue)]
  | none => .null

/-- The mean of numbers, added up in their order. The sum starts from negative zero, which leaves
every first term as it is. -/
def mean (xs : List Double) : Double :=
  (xs.foldl Double.add (Floating.zero true)).div (Floating.ofInt xs.length)

/-- The mean of places, if there are any. -/
def centroid? (ps : List GeoPoint) : Option GeoPoint :=
  if ps.isEmpty then none else some ⟨mean (ps.map lat), mean (ps.map lon)⟩

/-- The mean of places and their number as a value, null if there are no places. -/
def centroidValue (ps : List GeoPoint) : Value :=
  match centroid? ps with
  | some p =>
    .map [("count", .long (Int64.ofInt ps.length)), ("lat", .double p.lat),
      ("lon", .double p.lon)]
  | none => .null

end Sift.GeoPoint
