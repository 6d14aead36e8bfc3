import DesignGraph.Graph.Basic
/-!
# The structure of a graph

The directed graph behind a graph's wiring: one vertex for every node id, and one link for every
pair of vertices that some connection joins, carrying the sockets of all these connections.
Connections with a missing end leave no trace. The operations on wires leave open what type the
names of the nodes have; a vertex is named as its first node is, and a link leads to its target
under the name that its first wire uses.

## Main definitions

* `DesignGraph.Graph.vertices`, `DesignGraph.Graph.labels` — the distinct ids, alone and with the
  kinds of the nodes they address.
* `DesignGraph.Link`, `DesignGraph.Graph.links` — the links, grouped by source.
* `DesignGraph.Graph.adjacency` — where the links of every vertex lead.
-/

namespace DesignGraph

/-- The first member under every name, in order of first appearance. -/
def distinctBy {α ι : Type} [BEq ι] (name : α → ι) : List α → List α
  | [] => []
  | a :: rest => a :: (distinctBy name rest).filter (name · != name a)

/-- All wires between two vertices taken together: the sockets that they feed, in order. -/
structure Link (ι : Type) where
  source : ι
  target : ι
  sockets : List ι
  deriving DecidableEq, Repr

namespace Wire

variable {ι : Type} [BEq ι]

/-- Whether both ends of a wire are among the vertices. -/
def joins (vertices : List ι) (wire : Wire ι) : Bool :=
  vertices.contains wire.source && vertices.contains wire.target

/-- The names to which the given wires lead from a vertex, in order of first wire. -/
def targetsOf (wires : List (Wire ι)) (vertex : ι) : List ι :=
  distinctBy id ((wires.filter (·.source == vertex)).map (·.target))

/-- The vertices, each with those that the given wires lead to. -/
def adjacency (vertices : List ι) (wires : List (Wire ι)) : List (ι × List ι) :=
  vertices.map fun vertex => (vertex, targetsOf wires vertex)

/-- The link that the given wires form between two vertices. -/
def linkOf (wires : List (Wire ι)) (source target : ι) : Link ι where
  source := source
  target := target
  sockets := (wires.filter fun w => w.source == source && w.target == target).map (·.socket)

/-- The links that the given wires form, grouped by source in order of the vertices, then by
first wire. -/
def links (vertices : List ι) (wires : List (Wire ι)) : List (Link ι) :=
  (adjacency vertices wires).flatMap fun (vertex, targets) => targets.map (linkOf wires vertex)

end Wire

namespace Link

variable {ι : Type} [BEq ι]

/-- The number of links that lead to a vertex. -/
def inDegree (links : List (Link ι)) (vertex : ι) : Nat :=
  links.countP (·.target == vertex)

/-- The number of links that start at a vertex. -/
def outDegree (links : List (Link ι)) (vertex : ι) : Nat :=
  links.countP (·.source == vertex)

end Link

namespace Graph

/-- The distinct node ids, in order of first appearance. -/
def vertices (graph : Graph) : List String :=
  (distinctBy Node.id graph.nodes).map (·.id)

/-- The vertices, each with the kind of the node that it stands for. -/
def labels (graph : Graph) : List (String × String) :=
  (distinctBy Node.id graph.nodes).map fun node => (node.id, node.kind)

/-- The connections whose two ends exist. -/
def sound (graph : Graph) : List Connection :=
  graph.connections.filter (Wire.joins graph.vertices)

/-- The vertices, each with those that its sound connections lead to. -/
def adjacency (graph : Graph) : List (String × List String) :=
  Wire.adjacency graph.vertices graph.sound

/-- The links of a graph. -/
def links (graph : Graph) : List (Link String) :=
  Wire.links graph.vertices graph.sound

end Graph

end DesignGraph
