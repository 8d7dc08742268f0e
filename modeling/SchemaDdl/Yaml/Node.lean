import SchemaDdl.Yaml.Tag

/-!
# Nodes

A document is a graph of nodes, which refer to each other by number.  An alias refers to a node that
has come before it; where that node is still open, the document contains itself.
-/

namespace SchemaDdl

namespace Yaml

/-- What a node holds: a text, the numbers of its items, or those of its keys and values. -/
inductive Content
  | scalar (chars : List Char)
  | sequence (items : List Nat)
  | mapping (entries : List (Nat × Nat))
  deriving DecidableEq

structure Node where
  tag : Tag
  content : Content
  deriving DecidableEq

/-- The nodes of a document, the number of its root, the numbers of its nodes in the order in which
they end, and whether a node contains itself. -/
structure Document where
  nodes : Array Node
  root : Nat
  order : List Nat
  looped : Bool

end Yaml

end SchemaDdl
