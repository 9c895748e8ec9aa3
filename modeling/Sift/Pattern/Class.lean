import Sift.Pattern.Escape

/-!
# Classes of characters in regular expressions

A class stands in brackets: characters, ranges, escapes, named classes and further classes, joined
by the operators of sets. The operators all bind alike, from the left.

## Main definitions

* `Sift.RegexFlags.class?`: the class at the front of a text.
-/

set_option autoImplicit false

namespace Sift

/-- An operator on sets of characters. -/
inductive SetOperator where
  | intersection
  | difference
  | symmetricDifference
deriving DecidableEq, Repr

namespace SetOperator

/-- The result of an operator. -/
def apply (o : SetOperator) (s t : CharSet) : CharSet :=
  match o with
  | intersection => .inter s t
  | difference => .inter s (.compl t)
  | symmetricDifference => .symmDiff s t

/-- The operator at the front of a text, and what follows it. -/
def read? : List Char → Option (SetOperator × List Char)
  | '&' :: '&' :: rest => some (intersection, rest)
  | '-' :: '-' :: rest => some (difference, rest)
  | '~' :: '~' :: rest => some (symmetricDifference, rest)
  | _ => none

end SetOperator

/-- A set with the depth to which classes are nested in it. -/
structure NestedSet where
  /-- The set. -/
  set : CharSet
  /-- The depth. -/
  depth : Nat

namespace RegexFlags

/-- The named classes. -/
def namedClasses : List (String × Ranges) :=
  [("alnum", [(0x30, 0x39), (0x41, 0x5A), (0x61, 0x7A)]), ("alpha", [(0x41, 0x5A), (0x61, 0x7A)]),
    ("ascii", [(0, 0x7F)]), ("blank", [(0x9, 0x9), (0x20, 0x20)]),
    ("cntrl", [(0, 0x1F), (0x7F, 0x7F)]), ("digit", [(0x30, 0x39)]), ("graph", [(0x21, 0x7E)]),
    ("lower", [(0x61, 0x7A)]), ("print", [(0x20, 0x7E)]),
    ("punct", [(0x21, 0x2F), (0x3A, 0x40), (0x5B, 0x60), (0x7B, 0x7E)]),
    ("space", [(0x9, 0xD), (0x20, 0x20)]), ("upper", [(0x41, 0x5A)]),
    ("word", [(0x30, 0x39), (0x41, 0x5A), (0x5F, 0x5F), (0x61, 0x7A)]),
    ("xdigit", [(0x30, 0x39), (0x41, 0x46), (0x61, 0x66)])]

/-- A named class behind its opening bracket: its ranges, whether it is negated, and what follows
it. -/
def namedClass? : List Char → Option (Ranges × Bool × List Char)
  | ':' :: rest =>
    let (negated, rest) := match rest with
      | '^' :: rest => (true, rest)
      | _ => (false, rest)
    match rest.dropWhile (fun c => c ≠ ':') with
    | ':' :: ']' :: tail =>
      (namedClasses.lookup (String.ofList (rest.takeWhile fun c => c ≠ ':'))).map fun rs =>
        (rs, negated, tail)
    | _ => none
  | _ => none

/-- The character, set or other atom at the front of a text, and what follows it. -/
def classAtom? (f : RegexFlags) : List Char → Option (RegexAtom × List Char)
  | [] => none
  | '\\' :: rest => f.escape? rest
  | c :: rest => some (.char c, rest)

/-- A character as a member of a class. Without the characters of all scripts it has to be an
ASCII character. -/
def classChar? (f : RegexFlags) (c : Char) : Option CharSet :=
  if !f.unicode && 0x7F < c.toNat then none else some (.single c)

/-- The characters between two ones. -/
def classRange? (f : RegexFlags) (first last : Char) : Option CharSet :=
  if last < first ∨ (!f.unicode ∧ 0x7F < last.toNat) then none else some (.between first last)

/-- Whether what follows a hyphen makes it a character of its own rather than part of a range. -/
def endsAtHyphen (f : RegexFlags) (cs : List Char) : Bool :=
  match f.skip cs with
  | ']' :: _ | '-' :: _ => true
  | _ => false

/-- A member of a class other than a class in brackets, and what follows it. -/
def member? (f : RegexFlags) (cs : List Char) : Option (CharSet × List Char) :=
  match f.classAtom? cs with
  | none => none
  | some (atom, cs) =>
    let single : Option (CharSet × List Char) :=
      match atom with
      | .char c => (f.classChar? c).map fun s => (s, f.skip cs)
      | .set s => some (s, f.skip cs)
      | .pattern _ => none
    match f.skip cs with
    | [] => none
    | '-' :: rest =>
      if f.endsAtHyphen rest then single
      else
        match atom, f.classAtom? (f.skip rest) with
        | .char first, some (.char last, cs) =>
          (f.classRange? first last).map fun s => (s, cs)
        | _, _ => none
    | _ => single

/-- The set of several members, with its depth. -/
def unite (members : List NestedSet) : NestedSet :=
  match members with
  | [] => ⟨.empty, 0⟩
  | [m] => m
  | m :: rest =>
    rest.foldl (fun u n => ⟨.union u.set n.set, max u.depth n.depth⟩) m |> fun u =>
      ⟨u.set, u.depth + 1⟩

/-- Members that have been read, and the operand and operator in front of them. -/
structure ClassState where
  /-- The left operand and the operator, if an operator has been read. -/
  left : Option (NestedSet × SetOperator)
  /-- The members since then, last one first. -/
  members : List NestedSet

namespace ClassState

/-- The set of all that has been read. -/
def result (f : RegexFlags) (s : ClassState) : NestedSet :=
  let right := unite s.members.reverse
  match s.left with
  | none => right
  | some (left, o) =>
    ⟨o.apply (f.close left.set) (f.close right.set), max left.depth right.depth + 1⟩

/-- Takes one more member. -/
def add (s : ClassState) (m : NestedSet) : ClassState := { s with members := m :: s.members }

/-- Takes an operator. -/
def operate (f : RegexFlags) (s : ClassState) (o : SetOperator) : ClassState :=
  ⟨some (s.result f, o), []⟩

end ClassState

/-- Leading hyphens of a class, which stand for themselves, and what follows them. -/
def leadingHyphens (f : RegexFlags) : Nat → ClassState → List Char → ClassState × List Char
  | 0, s, cs => (s, cs)
  | fuel + 1, s, cs =>
    match f.skip cs with
    | '-' :: rest => f.leadingHyphens fuel (s.add ⟨.single '-', 0⟩) rest
    | cs => (s, cs)

/-- The start of a class behind its opening bracket: whether it is negated, the members that have
a meaning of their own there, and what follows them. -/
def openClass (f : RegexFlags) (cs : List Char) : Bool × ClassState × List Char :=
  let (negated, cs) := match f.skip cs with
    | '^' :: rest => (true, rest)
    | cs => (false, cs)
  let (s, cs) := f.leadingHyphens (cs.length + 1) ⟨none, []⟩ cs
  match s.members, cs with
  | [], ']' :: rest => (negated, s.add ⟨.single ']', 0⟩, rest)
  | _, cs => (negated, s, cs)

/-- The rest of a class: members and operators up to its closing bracket, and what follows it.
Classes in it are read in turn; `fuel` bounds the number of steps. -/
def classRest? (f : RegexFlags) : Nat → Bool → ClassState → List Char →
    Option (NestedSet × List Char)
  | 0, _, _, _ => none
  | fuel + 1, negated, s, cs =>
    match f.skip cs with
    | [] => none
    | ']' :: rest =>
      let r := s.result f
      (f.negate? negated (f.close r.set)).map fun set => (⟨set, r.depth + 1⟩, rest)
    | '[' :: rest =>
      match namedClass? rest with
      | some (ranges, neg, tail) =>
        match f.negate? neg (f.close (.ranges ranges)) with
        | some set => f.classRest? fuel negated (s.add ⟨set, 0⟩) tail
        | none => none
      | none =>
        let (neg, inner, cs) := f.openClass rest
        match f.classRest? fuel neg inner cs with
        | some (m, tail) => f.classRest? fuel negated (s.add m) tail
        | none => none
    | cs =>
      match SetOperator.read? cs with
      | some (o, rest) => f.classRest? fuel negated (s.operate f o) rest
      | none =>
        match f.member? cs with
        | some (set, rest) => f.classRest? fuel negated (s.add ⟨set, 0⟩) rest
        | none => none

/-- The class behind an opening bracket, and what follows it. -/
def class? (f : RegexFlags) (cs : List Char) : Option (NestedSet × List Char) :=
  let (negated, s, rest) := f.openClass cs
  f.classRest? (cs.length + 1) negated s rest

end RegexFlags

end Sift
