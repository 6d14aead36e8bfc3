import DesignGraph.Value.Basic
import DesignGraph.Catalog
/-!
# Graphs

A graph is a list of nodes and a list of connections that carry a node's value to an input socket
of another node. Ids need not be unique, sockets may be fed twice and connections may name nodes
that do not exist: whatever stands first in the list wins, and the rest has no effect on values.

## Main definitions

* `DesignGraph.Node`, `DesignGraph.Connection`, `DesignGraph.Graph` — the data of a graph.
* `DesignGraph.Wire` — a connection between nodes that have names of any type.
* `DesignGraph.Graph.node?` — the node that an id addresses.
* `DesignGraph.Graph.source?` — the id that feeds a socket.
* `DesignGraph.Graph.output?`, `DesignGraph.Graph.actions` — the node that is displayed and the
  nodes that act.
-/

namespace DesignGraph

/-- One operation of a graph. `kind` is the full name of its kind, which may be unknown. -/
structure Node where
  id : String
  kind : String
  data : Fields
  deriving DecidableEq, Repr

namespace Node

/-- The literal of a node, null when it has none. -/
def literal (node : Node) : Value :=
  Fields.get node.data "value"

/-- The built-in kind of a node. -/
def kind? (node : Node) : Option Kind :=
  Kind.ofName? node.kind

/-- Whether a node acts on the outside. -/
def isAction (node : Node) : Bool :=
  node.kind?.any Kind.isAction

/-- Whether a node is an output. -/
def isOutput (node : Node) : Bool :=
  node.kind == Kind.output.name

end Node

/-- A wire from the value of the node `source` to the input `socket` of the node `target`. -/
structure Wire (ι : Type) where
  source : ι
  target : ι
  socket : ι
  deriving DecidableEq, Repr

/-- A wire of a graph, whose nodes and sockets are named by texts. -/
abbrev Connection := Wire String

/-- Nodes and connections in authoring order. A graph in a library has an id, and any graph may
have a name; both are null when absent and may be values of any kind. -/
structure Graph where
  nodes : List Node
  connections : List Connection
  id : Value
  name : Value
  deriving DecidableEq, Repr

namespace Graph

/-- The first node with the given id. -/
def node? (graph : Graph) (id : String) : Option Node :=
  graph.nodes.find? (·.id == id)

/-- The id of the node that feeds `socket` of the node `target`: the source of the first
connection to it. -/
def source? (graph : Graph) (target socket : String) : Option String :=
  (graph.connections.find? fun c => c.target == target && c.socket == socket).map (·.source)

/-- Whether some connection leads to `socket` of the node `target`. -/
def isWired (graph : Graph) (target socket : String) : Bool :=
  graph.connections.any fun c => c.target == target && c.socket == socket

/-- The first output node. -/
def output? (graph : Graph) : Option Node :=
  graph.nodes.find? Node.isOutput

/-- The nodes that act, in authoring order. -/
def actions (graph : Graph) : List Node :=
  graph.nodes.filter Node.isAction

/-- A socket is wired exactly if something feeds it. -/
theorem isWired_eq_isSome_source? (graph : Graph) (target socket : String) :
    graph.isWired target socket = (graph.source? target socket).isSome := by
  rw [Bool.eq_iff_iff]
  simp [isWired, source?]

/-- The node that an id addresses has that id. -/
theorem id_of_node? {graph : Graph} {id : String} {node : Node} (h : graph.node? id = some node) :
    node.id = id := by
  simpa using List.find?_some h

end Graph

end DesignGraph
