import Galley.Tree.Node

/-!
# Sequences of nodes

A fragment is the sequence of nodes at the top of a document. Editing gives a new fragment. The
walk visits the nodes of a fragment in the order of the text, each with its parent and its place
among its siblings, and leaves out what lies below the nodes that it is told to skip.
-/

namespace Galley

/-- A sequence of sibling nodes. -/
abbrev Fragment := List Node

namespace Fragment

/-! ## 1. Documents -/

/-- The children of a document; any other node stands alone. -/
def ofDoc : Node → Fragment
  | .element "doc" _ content => content
  | n => [n]

/-- A document with the given nodes as its children. -/
def toDoc (nodes : Fragment) : Node :=
  .element "doc" Dict.empty nodes

theorem ofDoc_toDoc (nodes : Fragment) : ofDoc (toDoc nodes) = nodes := rfl

/-! ## 2. Editing -/

/-- Puts `n` in place of the node at `index`; past the end nothing changes. -/
def replaceAt (nodes : Fragment) (index : Nat) (n : Node) : Fragment :=
  nodes.set index n

/-- Puts `n` in front of the node at `index`, or at the end. -/
def insertAt (nodes : Fragment) (index : Nat) (n : Node) : Fragment :=
  nodes.take index ++ n :: nodes.drop index

/-- The text of all nodes. -/
def textContent (nodes : Fragment) : String := Node.textOf nodes

/-! ## 3. The walk -/

/-- One step of the walk: a node, its parent and its place among its siblings. -/
structure Visit where
  node : Node
  parent : Option Node
  index : Nat
  deriving Inhabited

mutual

/-- The visits to the nodes `ns`, which stand below `parent` from `index` on. The nodes below a
    node that `enter` refuses are not visited. -/
def visitsFrom (enter : Node → Bool) (parent : Option Node) (index : Nat) :
    List Node → List Visit
  | [] => []
  | n :: ns =>
    ⟨n, parent, index⟩ :: visitsBelow enter n ++ visitsFrom enter parent (index + 1) ns

/-- The visits to the nodes below `n`, if `enter` lets the walk in. -/
def visitsBelow (enter : Node → Bool) : Node → List Visit
  | .text _ _ => []
  | .element kind attrs content =>
    if enter (.element kind attrs content) then
      visitsFrom enter (some (.element kind attrs content)) 0 content
    else []

end

/-- The visits to the nodes of a fragment. -/
def visits (enter : Node → Bool) (nodes : Fragment) : List Visit :=
  visitsFrom enter none 0 nodes

/-- Every node of a fragment, in the order of the text. -/
def allNodes (nodes : Fragment) : List Node :=
  (visits (fun _ => true) nodes).map Visit.node

end Fragment

end Galley
