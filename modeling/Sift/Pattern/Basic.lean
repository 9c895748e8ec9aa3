import Sift.Unicode.Property

/-!
# Patterns

A pattern describes runs of characters in a text. It is matched by following all its ways through
the text at once: from a set of positions to the set of positions to which the pattern leads.

## Main definitions

* `Sift.Pattern`: patterns.
* `Sift.Pattern.advance`: the positions to which a pattern leads.
* `Sift.Pattern.occursIn`: whether a pattern matches somewhere in a text.
* `Sift.Pattern.letter`, `Sift.Pattern.anyRun`: a character in any case, and a run of characters.
-/

set_option autoImplicit false

namespace Sift

/-- What can be asked of a position in a text. -/
inductive Look where
  /-- Nothing precedes it. -/
  | start
  /-- Nothing follows it. -/
  | stop
  /-- A line starts; lines end with line feeds. -/
  | lineStart
  /-- A line ends. -/
  | lineStop
  /-- A line starts; lines end with line feeds, carriage returns or both together. -/
  | crlfStart
  /-- A line ends. -/
  | crlfStop
  /-- A word starts or ends. -/
  | boundary (word : CharSet)
  /-- No word starts or ends. -/
  | inside (word : CharSet)
  /-- A word starts. -/
  | wordStart (word : CharSet)
  /-- A word ends. -/
  | wordStop (word : CharSet)
  /-- No character of a word precedes. -/
  | afterGap (word : CharSet)
  /-- No character of a word follows. -/
  | beforeGap (word : CharSet)
deriving DecidableEq

/-- A pattern. -/
inductive Pattern where
  /-- The empty run. -/
  | empty
  /-- One character of a set. -/
  | one (set : CharSet)
  /-- The empty run at certain positions. -/
  | look (look : Look)
  /-- One pattern after the other. -/
  | seq (first second : Pattern)
  /-- One of two patterns. -/
  | alt (left right : Pattern)
  /-- A pattern again and again, at least `least` times and at most `most` times. -/
  | again (inner : Pattern) (least : Nat) (most : Option Nat)
  /-- A pattern whose place in the text may be asked for. It matches as it does elsewhere. -/
  | capture (inner : Pattern)
deriving DecidableEq, Inhabited

namespace Look

/-- Whether a character is there and belongs to a set. -/
def within (set : CharSet) : Option Char → Bool
  | some c => set.contains c.toNat
  | none => false

/-- Whether a look is satisfied between two characters, of which either may be missing. -/
def holds (before after : Option Char) : Look → Bool
  | start => before.isNone
  | stop => after.isNone
  | lineStart => before.isNone || before == some '\n'
  | lineStop => after.isNone || after == some '\n'
  | crlfStart =>
    before.isNone || before == some '\n' || (before == some '\r' && after != some '\n')
  | crlfStop =>
    after.isNone || after == some '\r' || (after == some '\n' && before != some '\r')
  | boundary w => within w before != within w after
  | inside w => within w before == within w after
  | wordStart w => !within w before && within w after
  | wordStop w => within w before && !within w after
  | afterGap w => !within w before
  | beforeGap w => !within w after

end Look

namespace Pattern

/-- A set of positions of a text: for each position, from the one in front of the first character
to the one behind the last, whether it is in the set. -/
abbrev Marks := List Bool

/-- The characters around each position, given the one in front of the text. -/
def contexts (before : Option Char) : List Char → List (Option Char × Option Char)
  | [] => [(before, none)]
  | c :: rest => (before, some c) :: contexts (some c) rest

/-- The positions behind the marked ones, where a character of the set lies between. -/
def pass (set : CharSet) (text : List Char) (marks : Marks) : Marks :=
  false :: List.zipWith (fun marked c => marked && set.contains c.toNat) marks text

/-- The marked positions at which a look is satisfied. -/
def keep (look : Look) (text : List Char) (marks : Marks) : Marks :=
  List.zipWith (fun marked c => marked && look.holds c.1 c.2) marks (contexts none text)

/-- The positions in either of two sets. -/
def merge (marks others : Marks) : Marks := List.zipWith (· || ·) marks others

/-- Applies a step a number of times, unless it changes nothing any more. -/
def iterate (step : Marks → Marks) : Nat → Marks → Marks
  | 0, marks => marks
  | n + 1, marks =>
    let next := step marks
    if next = marks then marks else iterate step n next

/-- Positions together with those to which up to a number of steps lead. -/
def reach (step : Marks → Marks) (n : Nat) (marks : Marks) : Marks :=
  iterate (fun marks => merge marks (step marks)) n marks

/-- The positions to which a pattern leads from marked ones. A pattern that may be repeated without
limit has led everywhere after as many steps as there are positions. -/
def advance (text : List Char) : Pattern → Marks → Marks
  | empty, marks => marks
  | one s, marks => pass s text marks
  | look l, marks => keep l text marks
  | seq p q, marks => advance text q (advance text p marks)
  | alt p q, marks => merge (advance text p marks) (advance text q marks)
  | again p least most, marks =>
    let more := match most with
      | some n => n - least
      | none => text.length + 1
    reach (advance text p) more (iterate (advance text p) least marks)
  | capture p, marks => advance text p marks

/-- Whether a pattern matches a run of characters somewhere in a text. -/
def occursIn (p : Pattern) (text : String) : Bool :=
  let cs := text.toList
  (advance cs p (List.replicate (cs.length + 1) true)).any id

/-- One pattern after the other. -/
def sequence (ps : List Pattern) : Pattern := ps.foldr seq empty

/-- One of several patterns, of which there is at least one. -/
def choice : List Pattern → Pattern
  | [] => one .empty
  | [p] => p
  | p :: rest => alt p (choice rest)

/-- A character in any case. -/
def letter (c : Char) : Pattern := one (.anyCase (.single c))

/-- Any character but a line feed. -/
def any : Pattern := one (.compl (.single '\n'))

/-- Any run of characters without a line feed. -/
def anyRun : Pattern := again any 0 none

end Pattern

end Sift
