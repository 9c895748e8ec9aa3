import Sift.Environment
import Sift.Number.Numeral
import Sift.Text.Basic
import Sift.Time.Error

/-!
# Time zones

A zone is a fixed distance from UTC or the clocks of a region. It turns instants into times on the
wall and back; a time that clocks show twice is taken for the earlier instant, and a time that
they skip for the one an hour later. Which regions there are depends on the environment.

## Main definitions

* `Sift.Zone`: zones.
* `Sift.ZonedTime`: an instant with the distance from UTC in effect.
* `Sift.Zone.localize`, `Sift.Zone.ofWall`: the two directions.
* `Sift.Zone.ofId?`: the zone of an identifier.
-/

set_option autoImplicit false

namespace Sift

/-- A time zone. -/
inductive Zone where
  /-- Clocks that are always ahead of UTC by some seconds. -/
  | fixed (offset : Int)
  /-- The clocks of a region. -/
  | region (region : Region)
deriving DecidableEq

/-- An instant together with the seconds by which a clock is ahead of UTC. -/
structure ZonedTime where
  /-- The instant. -/
  instant : Instant
  /-- The seconds by which the clock is ahead. -/
  offset : Int
deriving DecidableEq, Repr

/-- What the clock shows. -/
def ZonedTime.wall (t : ZonedTime) : WallTime := t.instant.wallTime t.offset

namespace Zone

/-- UTC. -/
def utc : Zone := fixed 0

/-- Whether the zone is UTC. -/
def isUtc : Zone → Bool
  | fixed offset => offset == 0
  | region _ => false

/-- The seconds by which clocks are ahead of UTC at an instant. -/
def offsetAt : Zone → Instant → Int
  | fixed offset, _ => offset
  | region r, t => r.offsetAt t

/-- The time on the clocks at an instant. -/
def localize (z : Zone) (t : Instant) : ZonedTime := ⟨t, z.offsetAt t⟩

/-- The first instant at which clocks show a time, unless they skip it. -/
def ofWall? : Zone → WallTime → Option ZonedTime
  | fixed offset, t => (t.instant? offset).map fun i => ⟨i, offset⟩
  | region r, t =>
    match r.offsetOfWall? t with
    | none => none
    | some offset => (t.instant? offset).map fun i => ⟨i, offset⟩

/-- The first instant at which clocks show a time. A time that the clocks of a region skip stands
for the one an hour later. -/
def ofWall (z : Zone) (t : WallTime) : Except DateError ZonedTime :=
  match z.ofWall? t with
  | some zt => .ok zt
  | none =>
    match z with
    | fixed _ => .error (.skipped t)
    | region _ =>
      match (t.shift? 3600).bind z.ofWall? with
      | some zt => .ok zt
      | none => .error (.skipped t)

/-! ## Identifiers -/

/-- The identifiers of UTC. -/
def utcIds : List String := ["UTC", "utc", "Z", "GMT", "Etc/UTC", "Etc/GMT"]

/-- Hours and minutes of a distance from UTC, from one, two or four digits. -/
def hoursMinutes? (digits : List Char) : Option (Nat × Nat) :=
  if digits.all Numeral.isDigit then
    match digits with
    | [_] | [_, _] => some (Numeral.ofDigits digits, 0)
    | [a, b, c, d] => some (Numeral.ofDigits [a, b], Numeral.ofDigits [c, d])
    | _ => none
  else none

/-- The distance from UTC of an identifier after its sign. Colons may stand anywhere. -/
def distance? (cs : List Char) : Option Int :=
  match hoursMinutes? (cs.filter fun c => c ≠ ':') with
  | some (h, m) => if h ≤ 18 ∧ m ≤ 59 then some (h * 3600 + m * 60 : Nat) else none
  | none => none

variable [Environment]

/-- The zone of an identifier: a name of UTC, a distance from UTC, or the name of a region. -/
def ofId? (id : String) : Option Zone :=
  let id := Text.trim id
  if utcIds.contains id then some utc
  else
    match id.toList with
    | [] => none
    | '+' :: rest => (distance? rest).map fixed
    | '-' :: rest => (distance? rest).map fun n => fixed (-n)
    | _ => (Environment.region? id).map region

/-- The zone of an identifier, UTC where there is none or it is unknown. -/
def ofIdOrUtc (id : Option String) : Zone := (id.bind ofId?).getD utc

end Zone

end Sift
