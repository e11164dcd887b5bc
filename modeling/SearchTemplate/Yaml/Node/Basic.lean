import SearchTemplate.Yaml.Tag

/-!
# Nodes

The tree of a document. An alias stands for the node with its anchor, which may be one that it
lies in.
-/

namespace SearchTemplate.Yaml

inductive Node where
  | scalar (tag : Tag) (text : Text)
  | sequence (tag : Tag) (items : List Node)
  | mapping (tag : Tag) (entries : List (Node × Node))
  | alias (name : Text)
  deriving Repr, Inhabited

namespace Node

/-- A missing node. -/
def empty : Node := .scalar .null []

/-- A collection without its content. -/
def hollow : Node → Node
  | .sequence tag _ => .sequence tag []
  | .mapping .map _ => .mapping .map []
  | .mapping .set _ => .mapping .set []
  | n => n

mutual

/-- A node and all that is inside of it. -/
def nodes : Node → List Node
  | .sequence tag items => .sequence tag items :: nodesOfItems items
  | .mapping tag entries => .mapping tag entries :: nodesOfEntries entries
  | .scalar tag text => [.scalar tag text]
  | .alias name => [.alias name]

def nodesOfItems : List Node → List Node
  | [] => []
  | n :: rest => n.nodes ++ nodesOfItems rest

def nodesOfEntries : List (Node × Node) → List Node
  | [] => []
  | (key, value) :: rest => key.nodes ++ (value.nodes ++ nodesOfEntries rest)

end

end Node

/-- The root of a document and its nodes with anchors. -/
structure Document where
  root : Node
  anchored : List (Text × Node)

/-- All nodes of a document, those of anchored nodes once more. -/
def Document.nodes (d : Document) : List Node :=
  d.root.nodes ++ d.anchored.flatMap fun a => a.2.nodes

end SearchTemplate.Yaml
