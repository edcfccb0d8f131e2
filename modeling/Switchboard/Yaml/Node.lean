import Switchboard.Text.Utf8
import Switchboard.Yaml.Token

/-!
# Nodes of a document

A document is a tree of scalars, sequences and mappings. An alias stands for a node elsewhere in the
document by the number of an anchor, which the document keeps beside its root; so a node may contain
an alias of itself. `Node.size` counts the parts that a document is written with.
-/

namespace Switchboard.Yaml

/-- A tag: the bytes of its name. -/
abbrev Tag := List UInt8

namespace Tag

/-- The tag of a name in the common schema. -/
def ofSchema (name : String) : Tag := Text.Utf8.encode ("tag:yaml.org,2002:" ++ name)

def null : Tag := ofSchema "null"

def bool : Tag := ofSchema "bool"

def int : Tag := ofSchema "int"

def float : Tag := ofSchema "float"

/-- Whether a tag begins with an exclamation mark. -/
def isMarked (t : Tag) : Bool := t.head? == some 0x21

/-- Whether a tag names a kind of the document's own making: its name is an exclamation mark and a
text behind it, or the mark alone. Bytes that are no text name nothing. -/
def isLocal (t : Tag) : Bool :=
  t.isMarked && (Text.Utf8.decode (t.drop 1)).toOption.isSome

end Tag

/-- A node. -/
inductive Node where
  | scalar (tag : Option Tag) (style : ScalarStyle) (text : String)
  | sequence (tag : Option Tag) (items : List Node)
  | mapping (tag : Option Tag) (entries : List (Node × Node))
  /-- The node with the anchor of a number. -/
  | alias (number : Nat)
  /-- The document has no content. -/
  | absent
  deriving Repr, Inhabited

namespace Node

mutual

/-- The number of parts that a node is written with; an alias is one part. -/
def size : Node → Nat
  | .scalar .. => 1
  | .sequence _ items => 2 + sizes items
  | .mapping _ entries => 2 + entrySizes entries
  | .alias _ => 1
  | .absent => 1

/-- The parts of the items of a sequence. -/
def sizes : List Node → Nat
  | [] => 0
  | n :: rest => size n + sizes rest

/-- The parts of the entries of a mapping. -/
def entrySizes : List (Node × Node) → Nat
  | [] => 0
  | (k, v) :: rest => size k + size v + entrySizes rest

end

/-- A plain text without characters, where a node is left out. -/
def empty : Node := .scalar none .plain ""

end Node

/-- A document: its root, and the nodes that have anchors by their numbers. -/
structure Document where
  root : Node
  anchored : List (Nat × Node) := []
  deriving Repr, Inhabited

namespace Document

/-- The node that an alias stands for; any other node stands for itself. -/
def target? (d : Document) : Node → Option Node
  | .alias k => d.anchored.lookup k
  | n => some n

end Document

end Switchboard.Yaml
