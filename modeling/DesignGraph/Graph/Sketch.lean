import DesignGraph.Graph.Snapshot
import DesignGraph.Graph.Structure
import DesignGraph.Value.Equality
/-!
# Sketches

A short form for graphs written by hand: a node is a row with its id, its kind and optionally its
literal, a connection is a row with its source, its target and the socket. Ids, kinds and sockets
may be values of any kind, which are told apart as keys are; a sketch has the look-ups and the
structure of a graph, and faults where a list or an object would have to be a key.

## Main definitions

* `DesignGraph.Sketch` — the data of a sketch.
* `DesignGraph.Sketch.ofRows`, `DesignGraph.Sketch.toSnapshot` — reading and writing.
* `DesignGraph.Sketch.vertices`, `DesignGraph.Sketch.links` — the structure.
* `DesignGraph.Sketch.node?`, `DesignGraph.Sketch.source?` — the look-ups.
-/

namespace DesignGraph

namespace Sketch

/-- A node: its id, the full name of its kind, and its literal if it has one. -/
structure Node where
  id : Value
  kind : Value
  literal : Option Value
  deriving DecidableEq, Repr

/-- A value that names a vertex: names are the same when they are the same key. -/
structure Name where
  value : Value

instance : BEq Name := ⟨fun a b => a.value.sameKey b.value⟩

end Sketch

/-- Nodes and wires in authoring order, with the library id and the name. -/
structure Sketch where
  nodes : List Sketch.Node
  wires : List (Wire Value)
  id : Value
  name : Value
  deriving DecidableEq, Repr

namespace Sketch

/-! ## Reading and writing -/

/-- The full name of a kind that may be given by a short name; a list or an object is no kind. -/
def fullKind : Value → Except Fault Value
  | .str name => .ok (.str (Catalog.canonicalName name))
  | v => v.asKey

/-- A node from its id, its kind and optionally its literal; what follows is ignored. -/
def Node.ofRow : List Value → Except Fault Node
  | id :: kind :: rest => (fullKind kind).map fun kind => ⟨id, kind, rest.head?⟩
  | _ => .error .malformed

/-- A wire from its source, its target and the socket that it feeds. -/
def wireOfRow : List Value → Except Fault (Wire Value)
  | [source, target, socket] => .ok ⟨source, target, socket⟩
  | _ => .error .wrongKind

/-- A sketch from the rows of its nodes and connections. Of the attributes only id and name are
known, and nodes and connections cannot be given once more. -/
def ofRows (nodes connections : List (List Value)) (attributes : Fields) :
    Except Fault Sketch := do
  if (Fields.keys attributes).any ["nodes", "connections"].contains then .error .wrongKind
  let nodes ← nodes.mapM Node.ofRow
  let wires ← connections.mapM wireOfRow
  if (Fields.keys attributes).all ["id", "name"].contains then
    return ⟨nodes, wires, Fields.get attributes "id", Fields.get attributes "name"⟩
  else .error .wrongKind

/-- Writes a node. -/
def Node.toSnapshot (node : Node) : Value :=
  .obj ([("id", node.id), ("type", node.kind)] ++
    node.literal.toList.map fun v => ("data", .obj [("value", v)]))

/-- Writes a wire. -/
def wireSnapshot (wire : Wire Value) : Value :=
  .obj [("sourceNodeId", wire.source), ("targetNodeId", wire.target),
    ("targetSocketId", wire.socket)]

/-- Writes a sketch. -/
def toSnapshot (sketch : Sketch) : Value :=
  .obj ([("nodes", .list (sketch.nodes.map Node.toSnapshot)),
      ("connections", .list (sketch.wires.map wireSnapshot))] ++
    Graph.optionalField "id" sketch.id ++ Graph.optionalField "name" sketch.name)

/-! ## Nodes -/

/-- The built-in kind of a node. -/
def Node.kind? (node : Node) : Option Kind :=
  match node.kind with
  | .str name => Kind.ofName? name
  | _ => none

/-- The first output node. -/
def output? (sketch : Sketch) : Option Node :=
  sketch.nodes.find? (·.kind? == some .output)

/-- The nodes that act, in authoring order. -/
def actions (sketch : Sketch) : List Node :=
  sketch.nodes.filter (·.kind?.any Kind.isAction)

/-- The first node with the given id. -/
def node? (sketch : Sketch) (id : Value) : Except Fault (Option Node) := do
  let id ← id.asKey
  return sketch.nodes.find? (·.id.sameKey id)

/-! ## Wires -/

/-- The first wire that leads to `socket` of the node `target`. Every wire and the question
itself must name keys. -/
def wire? (sketch : Sketch) (target socket : Value) : Except Fault (Option (Wire Value)) := do
  if sketch.wires.all fun w => w.target.isKey && w.socket.isKey then
    let target ← target.asKey
    let socket ← socket.asKey
    return sketch.wires.find? fun w => w.target.sameKey target && w.socket.sameKey socket
  else .error .wrongKind

/-- The id of the node that feeds `socket` of the node `target`. -/
def source? (sketch : Sketch) (target socket : Value) : Except Fault (Option Value) :=
  return (← sketch.wire? target socket).map (·.source)

/-- Whether some wire leads to `socket` of the node `target`. -/
def isWired (sketch : Sketch) (target socket : Value) : Except Fault Bool :=
  return (← sketch.wire? target socket).isSome

/-! ## Structure -/

/-- The name of a vertex. Null names none, and neither does a list or an object. -/
def vertexName : Value → Except Fault Name
  | .null => .error .malformed
  | v => v.asKey.map .mk

/-- The vertices with the nodes that they stand for, in order of first appearance. -/
def vertices (sketch : Sketch) : Except Fault (List (Name × Node)) := do
  let named ← sketch.nodes.mapM fun node => return (← vertexName node.id, node)
  return distinctBy Prod.fst named

/-- The links between vertices. -/
def links (sketch : Sketch) (vertices : List Name) : List (Link Name) :=
  let wires : List (Wire Name) := sketch.wires.map fun w => ⟨⟨w.source⟩, ⟨w.target⟩, ⟨w.socket⟩⟩
  Wire.links vertices (wires.filter (Wire.joins vertices))

end Sketch

end DesignGraph
