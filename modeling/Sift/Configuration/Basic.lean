import Sift.Error
import Sift.Toml.Reader
import Sift.Vocabulary.Basic
import Sift.Yaml.Reader

/-!
# Configurations

A configuration is written in TOML or in YAML; the name of a file says in which of them.

## Main definitions

* `Sift.Configuration`: a vocabulary and the settings of the log.
* `Sift.ConfigurationFormat`: the two notations.
* `Sift.Vocabulary.parse`, `Sift.Configuration.parse`: what a text says.
* `Sift.Vocabulary.load`, `Sift.Configuration.load`: what a file says.
-/

set_option autoImplicit false

namespace Sift

/-- The settings of the log. -/
structure LoggingSettings where
  /-- Which messages are logged. -/
  level : String := "info,quarry=debug"
  /-- How messages are laid out. -/
  format : String := "pretty"
deriving DecidableEq, Repr, Inhabited

/-- A vocabulary and the settings of the log. -/
structure Configuration where
  /-- The vocabulary. -/
  vocabulary : Vocabulary := {}
  /-- The settings of the log. -/
  logging : LoggingSettings := {}
deriving Inhabited

namespace LoggingSettings

/-- The document of the settings. -/
def toJson (s : LoggingSettings) : Json :=
  .record [("level", some (.str s.level)), ("format", some (.str s.format))]

/-- The settings of a document. -/
def ofJson? (x : Json) : Option LoggingSettings :=
  let standard : LoggingSettings := {}
  (x.fields? ["level", "format"] 0).bind fun t =>
    match Json.defaulted "level" standard.level Json.text? t,
      Json.defaulted "format" standard.format Json.text? t with
    | some level, some format => some ⟨level, format⟩
    | _, _ => none

end LoggingSettings

namespace Configuration

/-- The document of a configuration. -/
def toJson (c : Configuration) : Json :=
  .record [("transform", some c.vocabulary.toJson), ("logging", some c.logging.toJson)]

/-- The configuration of a document. -/
def ofJson? (x : Json) : Option Configuration :=
  (x.fields? ["transform", "logging"] 0).bind fun t =>
    match Json.defaulted "transform" {} Vocabulary.ofJson? t,
      Json.defaulted "logging" {} LoggingSettings.ofJson? t with
    | some v, some l => some ⟨v, l⟩
    | _, _ => none

end Configuration

/-- A notation for configurations. -/
inductive ConfigurationFormat where
  | toml
  | yaml
deriving DecidableEq, Repr

namespace ConfigurationFormat

/-- The ending of a file name: what follows its last dot, unless the name starts with that dot. -/
def extension? (name : String) : Option String :=
  let reversed := name.toList.reverse
  match reversed.dropWhile fun c => c ≠ '.' with
  | _ :: _ :: _ => some (String.ofList (reversed.takeWhile fun c => c ≠ '.').reverse)
  | _ => none

/-- The notation of a file with a name. -/
def ofFileName? (name : String) : Option ConfigurationFormat :=
  match extension? name with
  | some "toml" => some toml
  | some "yaml" => some yaml
  | some "yml" => some yaml
  | _ => none

/-- The failure to read a text in a notation. -/
def failure : ConfigurationFormat → Error
  | toml => .toml
  | yaml => .yaml

/-- The document that a text in a notation spells, in a shape. -/
def document? (f : ConfigurationFormat) (shape : Shape) (text : String) : Option Json :=
  match f with
  | toml => (Toml.read? text).bind fun x => Content.toJson? false shape (Content.ofJson x)
  | yaml => Yaml.read? shape text

/-- What a text in a notation says. -/
def parse {α : Type} (f : ConfigurationFormat) (shape : Shape) (read : Json → Option α)
    (text : String) : Except Error α :=
  match (f.document? shape text).bind read with
  | some x => .ok x
  | none => .error f.failure

/-- What a file with a name and, if it can be read, a content says. The notation is settled before
the file is read. -/
def load {α : Type} (shape : Shape) (read : Json → Option α) (name : String)
    (content : Option String) : Except Error α :=
  match ofFileName? name with
  | none => .error (.config ("Unsupported config extension for " ++ name))
  | some f =>
    match content with
    | none => .error .io
    | some text => f.parse shape read text

end ConfigurationFormat

/-- The vocabulary that a text says. -/
def Vocabulary.parse (f : ConfigurationFormat) (text : String) : Except Error Vocabulary :=
  f.parse Shape.vocabulary Vocabulary.ofJson? text

/-- The vocabulary that a file says. -/
def Vocabulary.load (name : String) (content : Option String) : Except Error Vocabulary :=
  ConfigurationFormat.load Shape.vocabulary Vocabulary.ofJson? name content

namespace Configuration

/-- The configuration that a text says. -/
def parse (f : ConfigurationFormat) (text : String) : Except Error Configuration :=
  f.parse Shape.configuration Configuration.ofJson? text

/-- The configuration that a file says. -/
def load (name : String) (content : Option String) : Except Error Configuration :=
  ConfigurationFormat.load Shape.configuration Configuration.ofJson? name content

/-- The configuration that a file says, or the standard one if there is no such file. -/
def loadOrDefault (name : String) (content : Option String) : Except Error Configuration :=
  match content with
  | none => .ok {}
  | some _ => load name content

end Configuration

end Sift
