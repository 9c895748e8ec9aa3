import Sift.Pattern.Class
import Sift.Pattern.Size
import Sift.Unicode.Alphanumeric

/-!
# Reading regular expressions

A regular expression is read from left to right. The flags in force are carried along; a group
keeps its changes of flags to itself. Groups, repetitions, sequences and choices may lie in one
another up to a limit.

## Main definitions

* `Sift.Pattern.ofRegex?`: the pattern of a regular expression.
* `Sift.Pattern.fullMatch?`: the pattern of a regular expression that has to match a whole text.
-/

set_option autoImplicit false

namespace Sift

namespace Regex

/-- What remains to be read, with what decides about its meaning. -/
structure State where
  /-- The flags in force. -/
  flags : RegexFlags
  /-- The names of groups so far. -/
  names : List (List Char)
  /-- The text that remains. -/
  rest : List Char

/-- A pattern with the depth of its parts. -/
structure Nested where
  /-- The pattern. -/
  pattern : Pattern
  /-- How deep its parts lie in one another. -/
  depth : Nat

/-- A part of a sequence. -/
structure Part where
  /-- The pattern. -/
  nested : Nested
  /-- Whether it can be repeated; a change of flags cannot. -/
  repeatable : Bool

/-- How deep the parts of an expression may lie in one another. -/
def maxDepth : Nat := 250

/-- Parts in their order. -/
def sequence : List Part → Nested
  | [p] => p.nested
  | [] => ⟨.empty, 0⟩
  | ps =>
    ⟨.sequence (ps.map fun p => p.nested.pattern),
      (ps.map fun p => p.nested.depth).foldl max 0 + 1⟩

/-- Several alternatives. -/
def choice : List Nested → Nested
  | [n] => n
  | ns => ⟨.choice (ns.map Nested.pattern), (ns.map Nested.depth).foldl max 0 + 1⟩

/-- Repeats the last of the parts read so far, which come last one first. -/
def repeatLast? (least : Nat) (most : Option Nat) : List Part → Option (List Part)
  | [] => none
  | p :: ps =>
    if p.repeatable then
      some (⟨⟨.again p.nested.pattern least most, p.nested.depth + 1⟩, true⟩ :: ps)
    else none

/-- Drops the mark that makes a repetition take as little as possible, which decides nothing about
whether there is a match. -/
def dropLazy : List Char → List Char
  | '?' :: rest => rest
  | cs => cs

/-- The digits at the front of a text, and what follows them. -/
def takeDigits (f : RegexFlags) : Nat → List Char → List Char × List Char
  | 0, cs => ([], cs)
  | fuel + 1, cs =>
    match cs with
    | c :: rest =>
      if Numeral.isDigit c then
        let (ds, tail) := takeDigits f fuel (f.skip rest)
        (c :: ds, tail)
      else ([], cs)
    | [] => ([], [])

/-- A number of 32 bits with blanks around it, and what follows it. -/
def count? (f : RegexFlags) (cs : List Char) : Option (Nat × List Char) :=
  let (ds, rest) := takeDigits f cs.length (cs.dropWhile isBlank)
  match Numeral.digits? ds with
  | some n => if n < UInt32.size then some (n, f.skip (rest.dropWhile isBlank)) else none
  | none => none

/-- The bounds of a repetition behind the opening brace, and what follows the closing one. -/
def bounds? (f : RegexFlags) (cs : List Char) : Option (Nat × Option Nat × List Char) :=
  match count? f (f.skip cs) with
  | none => none
  | some (least, '\x7d' :: rest) => some (least, some least, rest)
  | some (least, ',' :: rest) =>
    match f.skip rest with
    | '\x7d' :: rest => some (least, none, rest)
    | cs =>
      match count? f cs with
      | some (most, '\x7d' :: rest) => if least ≤ most then some (least, some most, rest) else none
      | _ => none
  | some _ => none

/-- The name of a group and what follows its closing mark. -/
def groupName? (first : Bool) : List Char → Option (List Char × List Char)
  | [] => none
  | '>' :: rest => if first then none else some ([], rest)
  | c :: rest =>
    let allowed :=
      if first then c = '_' || isAlphabetic c
      else c = '_' || c = '.' || c = '[' || c = ']' || isAlphanumeric c
    if allowed then (groupName? false rest).map fun (name, tail) => (c :: name, tail) else none

/-- What the start of a group says. -/
inductive GroupStart where
  /-- The flags are changed for the rest of the group around it. -/
  | change (flags : RegexFlags)
  /-- A group begins, with its own flags; it may capture what it matches, perhaps by a name. -/
  | group (flags : RegexFlags) (captures : Bool) (name : Option (List Char))

/-- The start of a group behind its parenthesis, and what follows it. Looking ahead and behind is
not supported. -/
def groupStart? (f : RegexFlags) (cs : List Char) : Option (GroupStart × List Char) :=
  match f.skip cs with
  | '?' :: 'P' :: '<' :: rest =>
    (groupName? true rest).map fun (name, tail) => (.group f true (some name), tail)
  | '?' :: '<' :: rest =>
    (groupName? true rest).map fun (name, tail) => (.group f true (some name), tail)
  | '?' :: rest =>
    match f.change? true [] rest with
    | some (flags, ':', tail) => some (.group flags false none, tail)
    | some (flags, _, tail) => some (.change flags, tail)
    | none => none
  | cs => some (.group f true none, cs)

/-- A single character, dot, mark or escape, and what follows it. -/
def atom? (f : RegexFlags) : List Char → Option (Pattern × List Char)
  | [] => none
  | '\\' :: rest =>
    (f.escape? rest).map fun (atom, tail) =>
      match atom with
      | .char c => (.one (f.charSet c), tail)
      | .set s => (.one s, tail)
      | .pattern p => (p, tail)
  | '.' :: rest => f.dot?.map fun p => (p, rest)
  | '^' :: rest => some (f.caret, rest)
  | '$' :: rest => some (f.dollar, rest)
  | c :: rest => some (.one (f.charSet c), rest)

mutual

/-- Alternatives up to the end of the text or a closing parenthesis. The bound `fuel` on the
number of steps follows from the length of the text. -/
def alternatives? : Nat → List Nested → State → Option (Nested × State)
  | 0, _, _ => none
  | fuel + 1, before, s =>
    match parts? fuel [] s with
    | none => none
    | some (n, s) =>
      match s.rest with
      | '|' :: rest => alternatives? fuel (n :: before) { s with rest := rest }
      | _ => some (choice (n :: before).reverse, s)

/-- The parts of a sequence up to the end of the text, a bar or a closing parenthesis; those read
so far come last one first. -/
def parts? : Nat → List Part → State → Option (Nested × State)
  | 0, _, _ => none
  | fuel + 1, before, s =>
    let repeated (least : Nat) (most : Option Nat) (rest : List Char) : Option (Nested × State) :=
      match repeatLast? least most before with
      | some ps => parts? fuel ps { s with rest := dropLazy rest }
      | none => none
    match s.flags.skip s.rest with
    | [] => some (sequence before.reverse, { s with rest := [] })
    | ')' :: rest => some (sequence before.reverse, { s with rest := ')' :: rest })
    | '|' :: rest => some (sequence before.reverse, { s with rest := '|' :: rest })
    | '?' :: rest => repeated 0 (some 1) rest
    | '*' :: rest => repeated 0 none rest
    | '+' :: rest => repeated 1 none rest
    | '\x7b' :: rest =>
      match bounds? s.flags rest with
      | some (least, most, rest) => repeated least most (s.flags.skip rest)
      | none => none
    | '[' :: rest =>
      match s.flags.class? rest with
      | some (m, rest) =>
        parts? fuel (⟨⟨.one m.set, m.depth⟩, true⟩ :: before) { s with rest := rest }
      | none => none
    | '(' :: rest =>
      match groupStart? s.flags rest with
      | none => none
      | some (.change flags, rest) =>
        parts? fuel (⟨⟨.empty, 0⟩, false⟩ :: before) { s with flags := flags, rest := rest }
      | some (.group flags captures name, rest) =>
        if name.any fun n => s.names.contains n then none
        else
          match alternatives? fuel [] ⟨flags, name.toList ++ s.names, rest⟩ with
          | some (n, ⟨_, names, ')' :: rest⟩) =>
            let p := if captures then .capture n.pattern else n.pattern
            parts? fuel (⟨⟨p, n.depth + 1⟩, true⟩ :: before) ⟨s.flags, names, rest⟩
          | _ => none
    | cs =>
      match atom? s.flags cs with
      | some (p, rest) => parts? fuel (⟨⟨p, 0⟩, true⟩ :: before) { s with rest := rest }
      | none => none

end

end Regex

namespace Pattern

/-- The pattern of a regular expression, if it is well formed. -/
def ofRegex? (cs : List Char) : Option Pattern :=
  match Regex.alternatives? (2 * cs.length + 2) [] ⟨.initial, [], cs⟩ with
  | some (n, ⟨_, _, []⟩) => if n.depth ≤ Regex.maxDepth then some n.pattern else none
  | _ => none

/-- A regular expression between marks for the start and the end of a text. -/
def anchored (regex : String) : List Char :=
  ['^', '(', '?', ':'] ++ regex.toList ++ [')', '$']

/-- The pattern of a regular expression that has to match a whole text, if it is not too large. -/
def fullMatch? (regex : String) : Option Pattern := (ofRegex? (anchored regex)).filter fits

end Pattern

end Sift
