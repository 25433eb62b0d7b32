import LiveConsole.Text.Codes
import LiveConsole.Yaml.Kind

/-!
# Graphs of nodes

A document is a graph of nodes: scalars, sequences of nodes, and mappings with nodes as keys and values.
A node is known by its number, so that it can stand in several places, and inside itself.
-/
namespace LiveConsole.Yaml

/-- The number of a node. -/
abbrev NodeId := Nat

/-- A node of a document. -/
inductive Node where
  /-- A scalar. -/
  | scalar (kind : Kind) (text : Text.Codes)
  /-- Nodes in order. -/
  | sequence (kind : Kind) (items : List NodeId)
  /-- Keys with their values, in order. -/
  | mapping (kind : Kind) (entries : List (NodeId × NodeId))
  deriving DecidableEq, Repr

namespace Node

/-- The kind of value that a node stands for. -/
def kind : Node → Kind
  | scalar kind _ => kind
  | sequence kind _ => kind
  | mapping kind _ => kind

/-- The node with another kind. -/
def withKind (kind : Kind) : Node → Node
  | scalar _ text => scalar kind text
  | sequence _ items => sequence kind items
  | mapping _ entries => mapping kind entries

/-- The entries of a mapping; other nodes have none. -/
def entries : Node → List (NodeId × NodeId)
  | mapping _ entries => entries
  | _ => []

/-- Whether a node is a mapping. -/
def isMapping : Node → Bool
  | mapping .. => true
  | _ => false

/-- Whether a node stands for a collection, which is filled after all of its own level is built. -/
def isCollection (node : Node) : Bool := [.seq, .map, .set, .omap, .pairs].contains node.kind

/-- The scalar where nothing is written. -/
def empty : Node := scalar .null []

end Node

/-- The nodes of a document by their numbers. -/
structure Graph where
  /-- The nodes, the first of number zero. -/
  nodes : Array Node
  deriving Repr

namespace Graph

/-- A graph without nodes. -/
def empty : Graph := ⟨#[]⟩

/-- The node of a number. -/
def get (graph : Graph) (id : NodeId) : Node := graph.nodes.getD id .empty

/-- Add a node; it gets the next number. -/
def add (graph : Graph) (node : Node) : NodeId × Graph := (graph.nodes.size, ⟨graph.nodes.push node⟩)

/-- Put a node in the place of the one with a number. -/
def set (graph : Graph) (id : NodeId) (node : Node) : Graph := ⟨graph.nodes.setIfInBounds id node⟩

end Graph

end LiveConsole.Yaml
