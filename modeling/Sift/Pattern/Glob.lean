import Sift.Pattern.Escape

/-!
# Globs

A glob is a row of characters that stand for themselves, of places for one character and of places
for a run of characters. It is matched as the regular expression that says the same, in which
characters with a special meaning stand behind a backslash.

## Main definitions

* `Sift.GlobPart`: the parts of a glob.
* `Sift.Glob.literal`, `Sift.Glob.ofText`: the glob of a text in which no character, or a star and
  a question mark, have a meaning of their own.
* `Sift.Glob.regex`: the regular expression of a glob.
-/

set_option autoImplicit false

namespace Sift

/-- A part of a glob. -/
inductive GlobPart where
  /-- A character that stands for itself. -/
  | letter (c : Char)
  /-- A place for one character. -/
  | one
  /-- A place for a run of characters. -/
  | run
deriving DecidableEq, Repr

/-- A row of parts. -/
abbrev Glob := List GlobPart

namespace GlobPart

/-- What a character of a glob stands for: a star for a run, a question mark for one character, and
any other character for itself. -/
def ofChar (c : Char) : GlobPart := if c = '*' then run else if c = '?' then one else letter c

/-- The regular expression of a part. -/
def source : GlobPart → List Char
  | letter c => if RegexFlags.isSpecial c then ['\\', c] else [c]
  | one => ['.']
  | run => ['.', '*']

end GlobPart

namespace Glob

/-- The glob in which every character stands for itself. -/
def literal (text : String) : Glob := text.toList.map .letter

/-- The glob that a text spells. -/
def ofText (text : String) : Glob := text.toList.map .ofChar

/-- The regular expression of a glob. -/
def regex (g : Glob) : String := String.ofList (g.flatMap GlobPart.source)

end Glob

end Sift
