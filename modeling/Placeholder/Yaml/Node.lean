import Placeholder.Yaml.Tag

/-! # Nodes of a YAML document

A document is a tree of scalars, sequences and mappings. A node may have an
anchor, and an alias stands for the node with its anchor.

Anchors are numbered: an anchor gets the number of different names that there
are before it. A name that is given again thus shares its number with the next
new name, and of nodes with one number the last one of the document counts.
-/

namespace Placeholder.Yaml

/-- What stands in front of a node. -/
structure Properties where
  anchor : Option Nat := none
  tag : Option Tag := none
deriving DecidableEq, Repr, Inhabited

/-- A node of a document. -/
inductive Node where
  | alias (anchor : Nat)
  | scalar (properties : Properties) (style : Style) (text : String)
  | sequence (properties : Properties) (elements : List Node)
  | mapping (properties : Properties) (members : List (Node × Node))
deriving Repr, Inhabited

namespace Node

/-- A node of which nothing is written. -/
def blank : Node := .scalar {} .plain ""

mutual

/-- The anchored nodes of a tree, in the order of their beginnings. -/
def anchored : Node → List (Nat × Node)
  | .alias _ => []
  | .scalar p style text => p.anchor.toList.map fun n => (n, .scalar p style text)
  | .sequence p elements =>
      (p.anchor.toList.map fun n => (n, .sequence p elements)) ++ anchoredElements elements
  | .mapping p members =>
      (p.anchor.toList.map fun n => (n, .mapping p members)) ++ anchoredMembers members

/-- The anchored nodes of the elements of a sequence. -/
def anchoredElements : List Node → List (Nat × Node)
  | [] => []
  | x :: xs => x.anchored ++ anchoredElements xs

/-- The anchored nodes of the members of a mapping. -/
def anchoredMembers : List (Node × Node) → List (Nat × Node)
  | [] => []
  | (k, x) :: rest => k.anchored ++ (x.anchored ++ anchoredMembers rest)

end

mutual

/-- The size of a tree, where every collection has a beginning and an end. -/
def size : Node → Nat
  | .alias _ => 1
  | .scalar _ _ _ => 1
  | .sequence _ elements => 2 + sizeElements elements
  | .mapping _ members => 2 + sizeMembers members

/-- The size of the elements of a sequence. -/
def sizeElements : List Node → Nat
  | [] => 0
  | x :: xs => x.size + sizeElements xs

/-- The size of the members of a mapping. -/
def sizeMembers : List (Node × Node) → Nat
  | [] => 0
  | (k, x) :: rest => k.size + (x.size + sizeMembers rest)

end

/-- Whether a node is a scalar of which nothing is written but its properties. -/
def isBlank : Node → Bool
  | .scalar _ .plain text => text.isEmpty
  | _ => false

end Node

/-- A document: its node, if it has any content, the nodes with anchors, and its
size. -/
structure Document where
  root : Option Node
  anchored : List (Nat × Node)
  size : Nat
deriving Repr

namespace Document

/-- The document of a node, or the one without content. -/
def ofRoot (root : Option Node) : Document :=
  { root := root
    anchored := root.elim [] Node.anchored
    size := root.elim 1 Node.size }

/-- The node that an anchor stands for. -/
def find? (d : Document) (anchor : Nat) : Option Node := d.anchored.reverse.lookup anchor

/-- The node itself, or the one that it is an alias of. -/
def resolve? (d : Document) : Node → Option Node
  | .alias anchor => d.find? anchor
  | node => some node

end Document

end Placeholder.Yaml
