import TypeCatalog.Text.CodePoint

/-!
# Graphs of nodes

The nodes of a document form a graph: a node that has an anchor may be the
child of several nodes, and of itself.  Nodes are numbered; every node has a
tag, be it written or found from its form.
-/

namespace TypeCatalog.Yaml

open Text (CodeText)

abbrev NodeId := Nat

abbrev NodeEntry := NodeId × NodeId

inductive Content where
  | scalar (text : CodeText)
  | sequence (items : List NodeId)
  | mapping (entries : List NodeEntry)
  deriving DecidableEq, Repr, Inhabited

structure Node where
  tag : String
  content : Content
  deriving DecidableEq, Repr, Inhabited

abbrev Graph := Array Node

namespace Graph

/-- The tag of a node; a number without a node has none. -/
def tagOf (graph : Graph) (id : NodeId) : String :=
  (graph[id]?.map (·.tag)).getD ""

/-- The content of a node; a number without a node stands for an empty text. -/
def contentOf (graph : Graph) (id : NodeId) : Content :=
  (graph[id]?.map (·.content)).getD (.scalar [])

def entriesOf (graph : Graph) (id : NodeId) : List NodeEntry :=
  match graph.contentOf id with
  | .mapping entries => entries
  | _ => []

def setTag (graph : Graph) (id : NodeId) (tag : String) : Graph :=
  graph.setIfInBounds id { tag, content := graph.contentOf id }

def setContent (graph : Graph) (id : NodeId) (content : Content) : Graph :=
  graph.setIfInBounds id { tag := graph.tagOf id, content }

end Graph

end TypeCatalog.Yaml
