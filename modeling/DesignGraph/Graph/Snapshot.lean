import DesignGraph.Graph.Basic
import DesignGraph.Number.Decimal
/-!
# Snapshots of graphs

The saved form of a graph: an object with its nodes and connections. Reading checks the structure
and resolves short kind names; writing leaves out what is absent.

## Main definitions

* `DesignGraph.Snapshot.object`, `DesignGraph.Snapshot.items` — checks shared by all snapshots.
* `DesignGraph.Graph.ofSnapshot`, `DesignGraph.Graph.toSnapshot` — reading and writing.
-/

namespace DesignGraph

namespace Snapshot

/-- The fields of a value that must be an object. -/
def object (path : String) : Value → Except Fault Fields
  | .obj fields => .ok fields
  | v => .error (.snapshot path ("expected an object, got " ++ v.kindName))

/-- The place of an item of a list. -/
def itemPath (path : String) (index : Nat) : String :=
  path ++ "[" ++ Decimal.natText index ++ "]"

/-- Reads the items of a list, which stand at `path` from `index` on, one after the other. -/
def items {α : Type} (read : String → Value → Except Fault α) (path : String) :
    Nat → List Value → Except Fault (List α)
  | _, [] => .ok []
  | index, v :: rest => do
    let a ← read (itemPath path index) v
    let more ← items read path (index + 1) rest
    return a :: more

/-- The text under `key`, or a fault with the given reason. -/
def text (fields : Fields) (path key reason : String) : Except Fault String :=
  match Fields.get fields key with
  | .str s => .ok s
  | _ => .error (.snapshot (path ++ "." ++ key) reason)

/-- The object under `key`, empty when nothing is there. -/
def objectOrEmpty (fields : Fields) (path key reason : String) : Except Fault Fields :=
  let v := Fields.get fields key
  if v.isFilled then
    match v with
    | .obj inner => .ok inner
    | _ => .error (.snapshot (path ++ "." ++ key) reason)
  else .ok []

/-- The list under `key`, empty when the key is absent. -/
def listOrEmpty (fields : Fields) (path key reason : String) : Except Fault (List Value) :=
  match Fields.get? fields key with
  | none => .ok []
  | some (.list vs) => .ok vs
  | some _ => .error (.snapshot (path ++ "." ++ key) reason)

end Snapshot

namespace Node

/-- Reads a node. -/
def ofSnapshot (path : String) (raw : Value) : Except Fault Node := do
  let fields ← Snapshot.object path raw
  let id ← Snapshot.text fields path "id" "node id must be a string"
  let kind ← Snapshot.text fields path "type" "node type must be a string"
  let data ← Snapshot.objectOrEmpty fields path "data" "node data must be an object"
  return ⟨id, Catalog.canonicalName kind, data⟩

/-- Writes a node. -/
def toSnapshot (node : Node) : Value :=
  .obj ([("id", .str node.id), ("type", .str node.kind)] ++
    if node.data.isEmpty then [] else [("data", .obj node.data)])

end Node

namespace Connection

/-- Reads a connection. -/
def ofSnapshot (path : String) (raw : Value) : Except Fault Connection := do
  let fields ← Snapshot.object path raw
  let endpoint (key : String) := Snapshot.text fields path key ("'" ++ key ++ "' must be a string")
  let source ← endpoint "sourceNodeId"
  let target ← endpoint "targetNodeId"
  let socket ← endpoint "targetSocketId"
  return ⟨source, target, socket⟩

/-- Writes a connection. -/
def toSnapshot (connection : Connection) : Value :=
  .obj [("sourceNodeId", .str connection.source), ("targetNodeId", .str connection.target),
    ("targetSocketId", .str connection.socket)]

end Connection

namespace Graph

/-- Reads a graph. -/
def ofSnapshot (path : String) (raw : Value) : Except Fault Graph := do
  let fields ← Snapshot.object path raw
  let nodes ← Snapshot.listOrEmpty fields path "nodes" "nodes must be a list"
  let connections ← Snapshot.listOrEmpty fields path "connections" "connections must be a list"
  let nodes ← Snapshot.items Node.ofSnapshot (path ++ ".nodes") 0 nodes
  let connections ←
    Snapshot.items Connection.ofSnapshot (path ++ ".connections") 0 connections
  return ⟨nodes, connections, Fields.get fields "id", Fields.get fields "name"⟩

/-- A field that is left out when its value is null. -/
def optionalField (key : String) : Value → Fields
  | .null => []
  | v => [(key, v)]

/-- Writes a graph. -/
def toSnapshot (graph : Graph) : Value :=
  .obj ([("nodes", .list (graph.nodes.map Node.toSnapshot)),
      ("connections", .list (graph.connections.map Connection.toSnapshot))] ++
    optionalField "id" graph.id ++ optionalField "name" graph.name)

end Graph

end DesignGraph
