import Sift.Table
import Sift.Yaml.Token

/-!
# Nodes of YAML documents

A node is a scalar, a sequence or a mapping, or it refers to a node that has a name. A name may be
given again; a reference means the node that had the name last before it.

## Main definitions

* `Sift.Yaml.Node`: nodes.
* `Sift.Yaml.Names`: the names of a document.
* `Sift.Yaml.Document`: documents.
-/

set_option autoImplicit false

namespace Sift.Yaml

/-- A node. -/
inductive Node where
  /-- A scalar. -/
  | scalar (text : String) (style : Style) (tag : Option String)
  /-- A sequence. -/
  | sequence (items : List Node) (tag : Option String)
  /-- A mapping, with its keys and values in their order. -/
  | mapping (entries : List (Node × Node)) (tag : Option String)
  /-- The node with a number. -/
  | reference (number : Nat)
deriving Inhabited

/-- The scalar of an empty place. -/
def Node.empty : Node := .scalar "" .plain none

/-- The names of a document. A node is found by the place where it starts. The number of a name is
how many names there were before it, so that a name that is given again shares its number with the
next new one; the node of a number is the one that starts last. -/
structure Names where
  /-- The numbers of the names. -/
  numbers : Table Nat := []
  /-- Where the nodes with a number start, latest first. -/
  starts : List (Nat × Nat) := []
  /-- The nodes by their starts. -/
  nodes : List (Nat × Node) := []

namespace Names

/-- Gives a name to the node that starts at a place. -/
def add (name : String) (start : Nat) (n : Names) : Names :=
  let number := n.numbers.length
  { n with numbers := Table.insert name number n.numbers, starts := (number, start) :: n.starts }

/-- Notes the node that starts at a place. -/
def complete (start : Nat) (node : Node) (n : Names) : Names :=
  { n with nodes := (start, node) :: n.nodes }

/-- The node with a number. -/
def find? (number : Nat) (n : Names) : Option Node :=
  (n.starts.lookup number).bind fun start => n.nodes.lookup start

end Names

/-- A document. -/
structure Document where
  /-- The node that the document consists of, if it is not empty. -/
  root : Option Node
  /-- The names in it. -/
  names : Names
  /-- The number of its parts: scalars, references, and starts and ends of collections. -/
  size : Nat

end Sift.Yaml
