import DesignGraph.Graph.Cycle
import DesignGraph.Text.Literal
/-!
# Validation

Problems that an author should know about. An evaluation never rejects a graph: what is missing
is null, and of what is ambiguous the first wins. Validation reports these situations, so that
they can be mended before they reach a page.

## Main definitions

* `DesignGraph.Issue` — a problem, with `Issue.code`, `Issue.message` and `Issue.nodeId`.
* `DesignGraph.Graph.issues` — the problems of a graph, in a fixed order.
* `DesignGraph.Graph.validate` — the same, optionally refusing a graph that has any.
* `DesignGraph.InvalidGraph` — the refusal.
-/

namespace DesignGraph

/-- A problem of a graph. -/
inductive Issue where
  | duplicateNode (id : String) (count : Nat)
  | duplicateSocket (target socket : String) (count : Nat)
  | multipleOutputs (first : String) (outputs : List String)
  | danglingConnection (connection : Connection) (missing : String)
  | unknownKind (id kind : String)
  | cycle (members : List String)
  deriving DecidableEq, Repr

namespace Issue

/-- The stable identifier of the sort of problem. -/
def code : Issue → String
  | .duplicateNode .. => "duplicate-node-id"
  | .duplicateSocket .. => "duplicate-socket"
  | .multipleOutputs .. => "multiple-outputs"
  | .danglingConnection .. => "dangling-connection"
  | .unknownKind .. => "unknown-type"
  | .cycle .. => "cycle"

/-- The problem in words. -/
def message : Issue → String
  | .duplicateNode id count =>
    "Node id '" ++ id ++ "' is used " ++ Decimal.natText count ++ " times"
  | .duplicateSocket target socket count =>
    "Socket '" ++ socket ++ "' on node '" ++ target ++ "' has " ++ Decimal.natText count ++
      " incoming connections; only the first is used"
  | .multipleOutputs first outputs =>
    "Graph has " ++ Decimal.natText outputs.length ++ " OUTPUT nodes (" ++
      ", ".intercalate outputs ++ "); only '" ++ first ++ "' is used"
  | .danglingConnection c missing =>
    "Connection " ++ c.source ++ " -> " ++ c.target ++ ":" ++ c.socket ++
      " references missing node '" ++ missing ++ "'"
  | .unknownKind id kind =>
    "Node '" ++ id ++ "' has unknown type '" ++ kind ++ "'; its literal value is passed through"
  | .cycle members =>
    "Nodes " ++ ", ".intercalate members ++ " form a cycle and evaluate to null"

/-- The id of the node that the problem is attached to. -/
def nodeId : Issue → String
  | .duplicateNode id _ => id
  | .duplicateSocket target .. => target
  | .multipleOutputs first _ => first
  | .danglingConnection _ missing => missing
  | .unknownKind id _ => id
  | .cycle members => members.headD ""

end Issue

/-- The refusal of a graph with problems, in words and with the list of the problems. -/
structure InvalidGraph where
  label : String
  issues : List Issue

/-- The refusal in words. -/
def InvalidGraph.message (refusal : InvalidGraph) : String :=
  let lines := refusal.issues.map fun issue =>
    "  -> [" ++ issue.code ++ "] " ++ issue.message
  "Invalid " ++ refusal.label ++ "\n\n" ++ "\n".intercalate lines ++ "\n\nHow to fix:\n" ++
    "  Remove duplicate or dangling connections and keep a single OUTPUT node"

namespace Graph

/-- The members that a list holds more than once, with their counts, in order of first
appearance. -/
def repeated {α : Type} [BEq α] : List α → List (α × Nat)
  | [] => []
  | a :: rest =>
    let more := (repeated rest).filter (·.1 != a)
    if rest.contains a then (a, rest.count a + 1) :: more else more

/-- Ids that several nodes share. -/
def duplicateNodes (graph : Graph) : List Issue :=
  (repeated (graph.nodes.map (·.id))).map fun (id, count) => .duplicateNode id count

/-- Sockets that several connections feed. -/
def duplicateSockets (graph : Graph) : List Issue :=
  (repeated (graph.connections.map fun c => (c.target, c.socket))).map
    fun ((target, socket), count) => .duplicateSocket target socket count

/-- More than one output node. -/
def multipleOutputs (graph : Graph) : List Issue :=
  match (graph.nodes.filter Node.isOutput).map (·.id) with
  | first :: second :: rest => [.multipleOutputs first (first :: second :: rest)]
  | _ => []

/-- Ends of connections that do not exist. -/
def danglingConnections (graph : Graph) : List Issue :=
  graph.connections.flatMap fun c =>
    ([c.source, c.target].filter fun id => (graph.node? id).isNone).map (.danglingConnection c)

/-- Nodes whose kind is not in the catalog. -/
def unknownKinds (graph : Graph) : List Issue :=
  (graph.nodes.filter fun node => !Catalog.isKnown node.kind).map
    fun node => .unknownKind node.id node.kind

/-- The problems of a graph. -/
def issues (graph : Graph) : List Issue :=
  graph.duplicateNodes ++ graph.duplicateSockets ++ graph.multipleOutputs ++
    graph.danglingConnections ++ graph.unknownKinds ++ graph.cycles.map .cycle

/-- How a refusal names the graph. -/
def label (graph : Graph) : String :=
  if graph.id.isFilled then "graph '" ++ graph.id.display ++ "'" else "graph"

/-- The problems of a graph; a strict validation refuses a graph that has any. -/
def validate (graph : Graph) (strict : Bool) : Except InvalidGraph (List Issue) :=
  if strict && !graph.issues.isEmpty then .error ⟨graph.label, graph.issues⟩
  else .ok graph.issues

end Graph

end DesignGraph
