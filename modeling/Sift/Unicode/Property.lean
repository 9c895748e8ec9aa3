import Sift.Unicode.Ages
import Sift.Unicode.Breaks
import Sift.Unicode.ScriptExtensions

/-!
# Properties of characters by name

A property is named by itself, or as the value of a property with several values: the category,
the script, the scripts in which a character occurs, its age, and its classes in the divisions of
text. Case, spaces, low lines and hyphens in names do not matter, nor does the word `is` in front.

## Main definitions

* `Sift.Property.set?`: the characters with a named property.
* `Sift.Property.valueSet?`: the characters with a value of a named property.
* `Sift.Property.word`: the characters of words.
-/

set_option autoImplicit false

namespace Sift.Property

/-- The letters of a name that count. -/
def letters (cs : List Char) : List Char :=
  (cs.filter fun c => c ≠ ' ' && c ≠ '_' && c ≠ '-' && c.toNat < 128).map fun c =>
    if 'A' ≤ c ∧ c ≤ 'Z' then Char.ofNat (c.toNat + 32) else c

/-- A name in the form in which names are compared. -/
def normalize (cs : List Char) : String :=
  match cs with
  | a :: b :: rest =>
    if (a = 'i' ∨ a = 'I') ∧ (b = 's' ∨ b = 'S') then
      let name := String.ofList (letters rest)
      if name = "c" then "isc" else name
    else String.ofList (letters cs)
  | _ => String.ofList (letters cs)

/-- The set with a name. -/
def lookup? {α : Type} (name : String) (t : List (List String × α)) : Option α :=
  (t.find? fun e => e.1.contains name).map Prod.snd

/-- The characters of a general category. -/
def category? (name : String) : Option CharSet :=
  match name with
  | "any" => some .all
  | "ascii" => some (.ranges [(0, 0x7F)])
  | "cn" | "unassigned" => some (.compl (.ofRanges Category.assigned))
  | "c" | "other" =>
    some (.union (.compl (.ofRanges Category.assigned))
      (.ofRanges [Category.controls, Category.formats, Category.privateUse]))
  | name => (lookup? name Category.named).map .ofRanges

/-- The characters of a script. -/
def script? (name : String) : Option CharSet := (lookup? name scripts).map .ranges

/-- The characters that occur in a script. Those that occur in several scripts by name are common
to no others. -/
def scriptExtension? (name : String) : Option CharSet :=
  match scripts.find? fun e => e.1.contains name with
  | none => none
  | some (names, own) =>
    if names.contains "common" || names.contains "inherited" then
      some (.except (.ranges own) (.ofRanges (scriptExtensions.map Prod.snd)))
    else
      match scriptExtensions.find? fun e => names.contains e.1 with
      | some (_, more) => some (.ofRanges [own, more])
      | none => some (.ranges own)

/-- The characters that are at least as old as a version. -/
def age? (name : String) : Option CharSet :=
  match ages.findIdx? fun e => e.1.contains name with
  | some i => some (.ofRanges ((ages.take (i + 1)).map Prod.snd))
  | none => none

/-- The characters with a named property, category or script. -/
def set? (cs : List Char) : Option CharSet :=
  let name := normalize cs
  ((lookup? name Trait.named).or (category? name)).or (script? name)

/-- The characters with a value of a named property. -/
def valueSet? (property value : List Char) : Option CharSet :=
  match normalize property with
  | "generalcategory" | "gc" => category? (normalize value)
  | "script" | "sc" => script? (normalize value)
  | "scriptextensions" | "scx" => scriptExtension? (normalize value)
  | "age" => age? (normalize value)
  | "graphemeclusterbreak" | "gcb" => lookup? (normalize value) Breaks.graphemes
  | "wordbreak" | "wb" => lookup? (normalize value) Breaks.words
  | "sentencebreak" | "sb" => lookup? (normalize value) Breaks.sentences
  | _ => none

/-- The decimal digits of all scripts. -/
def digit : CharSet := .ranges Category.decimalDigits

/-- The blanks. -/
def blank : CharSet := .ranges blankRanges

/-- The characters of words: alphabetic ones, marks, decimal digits, connecting punctuation and
joiners. -/
def word : CharSet :=
  .ofRanges (Category.alphabetic ++ Category.marks ++
    [Category.decimalDigits, Category.connectorPunctuation, Trait.joinControls])

end Sift.Property
