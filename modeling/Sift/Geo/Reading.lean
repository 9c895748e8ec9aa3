import Sift.Geo.Point
import Sift.Value.Coerce

/-!
# Places in records

A place is written as a map with the members `lat` and `lon`, as a list of longitude and
latitude, or as a text of latitude and longitude with a comma between them.

## Main definitions

* `Sift.Value.place?`: the place that a value describes.
* `Sift.Value.places`: the places that a value describes.
-/

set_option autoImplicit false

namespace Sift.Value

/-- The numbers of a list of two numbers. -/
def pair? : Value → Option (Value × Value)
  | list [x, y] => if x.isNumber && y.isNumber then some (x, y) else none
  | _ => none

/-- The place with the given coordinates, if both are numbers. -/
def placeAt? (lat lon : Option Double) : Option GeoPoint :=
  match lat, lon with
  | some lat, some lon => some ⟨lat, lon⟩
  | _, _ => none

/-- The place that a value describes. -/
def place? (v : Value) : Option GeoPoint :=
  match v with
  | map members =>
    placeAt? ((Table.find? "lat" members).bind toDouble?)
      ((Table.find? "lon" members).bind toDouble?)
  | str s =>
    match Text.splitOnce [','] s.toList with
    | some (lat, lon) =>
      placeAt? (Numeral.floating? (Text.trimChars lat)) (Numeral.floating? (Text.trimChars lon))
    | none => none
  | v =>
    match v.pair? with
    | some (lon, lat) => placeAt? lat.toDouble? lon.toDouble?
    | none => none

/-- The places that a value describes: those of the elements of a list that is no place itself,
and otherwise the place that the value is. -/
def places (v : Value) : List GeoPoint :=
  match v, v.pair? with
  | list items, none => items.filterMap place?
  | v, _ => v.place?.toList

end Sift.Value
