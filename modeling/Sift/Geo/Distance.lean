import Sift.Error
import Sift.Geo.Point

/-!
# Distances on the globe

## Main definitions

* `Sift.GeoPoint.distance`: the length of the great circle arc between two places.
* `Sift.DistanceUnit`: units of length.
-/

set_option autoImplicit false

namespace Sift

namespace Double

/-- The ratio of the circumference of a circle to its diameter. -/
def pi : Double := Floating.ofDecimal false 3141592653589793116 (-18)

/-- An angle in degrees as an angle in radians. -/
def toRadians (x : Double) : Double := x.mul (pi.div (Floating.ofInt 180))

/-- Sine. -/
def sin (x : Double) : Double := ofFloat x.toFloat.sin

/-- Cosine. -/
def cos (x : Double) : Double := ofFloat x.toFloat.cos

/-- The angle with a sine. -/
def asin (x : Double) : Double := ofFloat x.toFloat.asin

/-- Square root. -/
def sqrt (x : Double) : Double := ofFloat x.toFloat.sqrt

/-- Half of a number. -/
def half (x : Double) : Double := x.div (Floating.ofInt 2)

/-- Square. -/
def square (x : Double) : Double := x.mul x

end Double

namespace GeoPoint

/-- The mean radius of the earth in metres. -/
def earthRadius : Double := Floating.ofDecimal false 63710088 (-1)

/-- The square of half the chord between two places, on a globe of radius one. -/
def haversine (p q : GeoPoint) : Double :=
  let alongLat := (q.lat.sub p.lat).toRadians.half.sin.square
  let alongLon := (q.lon.sub p.lon).toRadians.half.sin.square
  alongLat.add ((p.lat.toRadians.cos.mul q.lat.toRadians.cos).mul alongLon)

/-- The length of the great circle arc between two places, in metres. Rounding may take the chord
beyond the diameter; it counts as the diameter then. -/
def distance (p q : GeoPoint) : Double :=
  let chord := (haversine p q).sqrt.lesser (Floating.ofInt 1)
  (Double.mul (Floating.ofInt 2) earthRadius).mul chord.asin

end GeoPoint

/-- A unit of length. -/
inductive DistanceUnit where
  | metre
  | kilometre
  | mile
deriving DecidableEq, Repr

namespace DistanceUnit

/-- The unit with a symbol. -/
def ofSymbol? (s : String) : Option DistanceUnit :=
  match s with
  | "m" => some metre
  | "km" => some kilometre
  | "mi" => some mile
  | _ => none

/-- The length of the unit in metres. -/
def metres : DistanceUnit → Double
  | metre => Floating.ofInt 1
  | kilometre => Floating.ofInt 1000
  | mile => Floating.ofDecimal false 1609344 (-3)

/-- The unit that a request names, metres if it names none. -/
def ofRequest (symbol : Option String) : Except Error DistanceUnit :=
  match symbol with
  | none => .ok metre
  | some s =>
    match ofSymbol? s with
    | some u => .ok u
    | none => .error (.invalidQuery ("Unknown distance unit '" ++ s ++ "'"))

end DistanceUnit

end Sift
