/-!
# Tokens of YAML texts

The words of a YAML text, together with the starts and ends of blocks, which show in the columns of
the text only.

## Main definitions

* `Sift.Yaml.Style`: the ways to write a scalar.
* `Sift.Yaml.Token`: tokens.
-/

set_option autoImplicit false

namespace Sift.Yaml

/-- A way to write a scalar. -/
inductive Style where
  /-- Without quotes. -/
  | plain
  /-- In quotes. -/
  | quoted
  /-- As a block whose lines are kept. -/
  | literal
  /-- As a block whose lines are joined. -/
  | folded
deriving DecidableEq, Repr

/-- A token. -/
inductive Token where
  /-- A scalar. -/
  | scalar (text : String) (style : Style)
  /-- A name for the node that follows. -/
  | anchor (name : String)
  /-- The node of a name. -/
  | reference (name : String)
  /-- The kind of the node that follows; the handle stands for the start of its name. -/
  | tag (handle suffix : String)
  /-- The version of the text. -/
  | version (major minor : Nat)
  /-- What a handle stands for. -/
  | handle (name meaning : String)
  /-- The mark before a document. -/
  | documentStart
  /-- The mark behind a document. -/
  | documentEnd
  /-- The start of a sequence on lines of its own. -/
  | blockSequence
  /-- The start of a mapping on lines of its own. -/
  | blockMapping
  /-- The end of a collection on lines of its own. -/
  | blockEnd
  /-- An opening bracket. -/
  | openBracket
  /-- A closing bracket. -/
  | closeBracket
  /-- An opening brace. -/
  | openBrace
  /-- A closing brace. -/
  | closeBrace
  /-- The mark before an item of a sequence. -/
  | item
  /-- A comma. -/
  | comma
  /-- The mark before a key, which most keys do without. -/
  | key
  /-- The colon before a value. -/
  | value
deriving DecidableEq, Repr

end Sift.Yaml
