import Sift.Json.Record

/-!
# Places on the globe

## Main definitions

* `Sift.GeoPoint`: a latitude and a longitude.
-/

set_option autoImplicit false

namespace Sift

/-- A place, in degrees. -/
structure GeoPoint where
  /-- Degrees north of the equator. -/
  lat : Double
  /-- Degrees east of the prime meridian. -/
  lon : Double
deriving DecidableEq

namespace GeoPoint

/-- The document of a place. -/
def toJson (p : GeoPoint) : Json :=
  .record [("lat", some (.double p.lat)), ("lon", some (.double p.lon))]

/-- The place of a document. -/
def ofJson? (x : Json) : Option GeoPoint :=
  (x.fields? ["lat", "lon"] 0).bind fun t =>
    match Json.required "lat" Json.double? t, Json.required "lon" Json.double? t with
    | some lat, some lon => some ⟨lat, lon⟩
    | _, _ => none

end GeoPoint

end Sift
