import Sift.Pattern.Basic
import Sift.Unicode.Encoding
import Sift.Unicode.Listing

/-!
# The size of patterns

A pattern stands for an automaton over the bytes of a text. It is not built, since a pattern is
matched without it; but a pattern whose automaton takes more than ten mebibytes is refused, so its
size is counted. Every state takes 32 bytes. On top of that, a state takes 8 bytes for each range
of bytes it distinguishes, and 4 bytes for each way on that takes no byte.

## Main definitions

* `Sift.CharSet.automatonSize`: the size of the automaton of a set of characters.
* `Sift.Pattern.measure`: the size of the automaton of a pattern.
* `Sift.Pattern.fits`: whether the automaton is small enough.
-/

set_option autoImplicit false

namespace Sift

namespace CharSet

/-- The bytes that the automaton of a set takes. One character is a state for each of its bytes,
and several ASCII characters are one state that distinguishes their ranges, and another one behind
it. Other sets branch to their runs of bytes, and share the states for common beginnings. -/
def automatonSize (s : CharSet) : Nat :=
  let rs := s.toRanges
  let runs := rs.flatMap Encoding.runs
  let states := Encoding.countBytes [] runs
  match rs with
  | [] => 32
  | [(lo, hi)] => if lo = hi then 32 * states else several rs runs states
  | rs => several rs runs states
where
  /-- The bytes for several characters. -/
  several (rs : Ranges) (runs : List Encoding.Run) (states : Nat) : Nat :=
    if rs.all fun r => r.2 < 0x80 then 64 + 8 * rs.length
    else 64 + 4 * runs.length + 32 * states

/-- More than the automaton of a set takes: a few hundred ranges, of some 30 bytes each, make up
the largest of the named ones. -/
def automatonBound : Nat := 131072

end CharSet

namespace Pattern

/-- Whether a pattern can match without a character. -/
def canBeEmpty : Pattern → Bool
  | empty => true
  | one _ => false
  | look _ => true
  | seq p q => canBeEmpty p && canBeEmpty q
  | alt p q => canBeEmpty p || canBeEmpty q
  | again p least most => least == 0 || most == some 0 || canBeEmpty p
  | capture p => canBeEmpty p

/-- Whether a pattern can match only without a character. -/
def isEmpty : Pattern → Bool
  | empty => true
  | one _ => false
  | look _ => true
  | seq p q => isEmpty p && isEmpty q
  | alt p q => isEmpty p && isEmpty q
  | again p _ most => most == some 0 || isEmpty p
  | capture p => isEmpty p

/-- The set of a pattern that has only sets of characters as alternatives. -/
def set? : Pattern → Option CharSet
  | one s => some s
  | alt p q =>
    match set? p, set? q with
    | some s, some t => some (.union s t)
    | _, _ => none
  | _ => none

/-- The size of an automaton, which depends on where it stands. -/
structure Measure where
  /-- The bytes it takes alone. -/
  alone : Nat
  /-- The bytes it takes in a sequence, where nothing needs no state. -/
  inSequence : Nat
  /-- The bytes it takes as one of several alternatives, or as some of them. -/
  inChoice : Nat

namespace Measure

/-- A size that does not depend on its place, apart from the way there that a choice adds. -/
def ofSize (n : Nat) : Measure := ⟨n, n, n + 4⟩

/-- Nothing. -/
def nothing : Measure := ⟨32, 0, 36⟩

/-- One automaton after the other. -/
def seq (m n : Measure) : Measure :=
  let size := m.inSequence + n.inSequence
  if size = 0 then nothing else ofSize size

/-- One of two automata, with a state where their ways part and one where they meet. -/
def alt (m n : Measure) : Measure :=
  let size := 64 + m.inChoice + n.inChoice
  ⟨size, size, m.inChoice + n.inChoice⟩

/-- An automaton as often as asked for. Each repetition that may be left out has a state with two
ways on; a repetition without limit leads back by one, or by two and a common end if nothing at all
may be repeated. -/
def again (m : Measure) (canBeEmpty : Bool) (least : Nat) (most : Option Nat) : Measure :=
  match most with
  | none =>
    if least = 0 then ofSize (m.alone + if canBeEmpty then 112 else 40)
    else ofSize (least * m.alone + 40)
  | some most =>
    if most = 0 then nothing
    else if least = 1 ∧ most = 1 then m
    else if least = 0 ∧ most = 1 then ofSize (m.alone + 72)
    else if least = most then ofSize (least * m.alone)
    else
      let must := if least = 0 then 32 else least * m.alone
      ofSize (must + 32 + (most - least) * (40 + m.alone))

/-- An automaton between two states that note where it begins and ends. -/
def capture (m : Measure) : Measure := ofSize (m.alone + 64)

end Measure

/-- The size of the automaton of a pattern, given that of its sets of characters. What can match
nothing but the empty run is not repeated more than once. -/
def measure (setSize : CharSet → Nat) : Pattern → Measure
  | empty => .nothing
  | one s => .ofSize (setSize s)
  | look _ => .ofSize 32
  | seq p q => (measure setSize p).seq (measure setSize q)
  | alt p q =>
    let m := (measure setSize p).alt (measure setSize q)
    match set? (alt p q) with
    | some s => { m with alone := setSize s, inSequence := setSize s }
    | none => m
  | again p least most =>
    let m := measure setSize p
    if isEmpty p then m.again true (min least 1) (some (min (most.getD 1) 1))
    else m.again (canBeEmpty p) least most
  | capture p => (measure setSize p).capture

/-- The bytes that an automaton may take. -/
def sizeLimit : Nat := 10485760

/-- Whether the automaton of a pattern is small enough, together with its four states for the
start, the match and its place. The sizes of the sets are counted only where a bound on them does
not decide. -/
def fits (p : Pattern) : Bool :=
  let small (setSize : CharSet → Nat) : Bool := (p.measure setSize).alone + 128 ≤ sizeLimit
  small (fun _ => CharSet.automatonBound) || small CharSet.automatonSize

end Pattern

end Sift
