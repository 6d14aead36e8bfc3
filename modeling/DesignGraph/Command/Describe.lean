import DesignGraph.Command.Basic
import DesignGraph.Composition
import DesignGraph.Graph.Snapshot
import DesignGraph.Graph.Validation
import DesignGraph.Report.Basic
/-!
# Descriptions

The commands that describe a part of a project: an element as it is composed in a context, and a
graph with what is wrong with it. Both print for people or give JSON.

## Main definitions

* `DesignGraph.Command.describeElement` — an element in a context.
* `DesignGraph.Command.describeGraph` — a graph of the libraries or of an element.
-/

namespace DesignGraph.Command

/-- The result of a command that was asked for JSON. -/
def giveJson (host : Host) (name : String) (data : Value) (file : Option String) :
    Except Fault Result :=
  let text := Json.text .indented (Report.envelope name host.moment data)
  match file.filter (· ≠ "") with
  | none => .ok (.printed [text])
  | some file => do
    let place ← host.files.target host.folder file
    return ⟨0, lines ["Wrote " ++ name ++ " output to " ++ file], [(place, text)]⟩

/-! ## Elements -/

/-- A composition for other programs. -/
def compositionData (id : String) (hovered clicked : Bool) (time : Float) (c : Composition) :
    Value :=
  .obj [("element", .str id),
    ("context", .obj [("hovered", .bool hovered), ("clicked", .bool clicked),
      ("time", .float time)]),
    ("style", .obj c.style),
    ("content", .str c.content),
    ("computed_style", .obj c.computed.style),
    ("computed_content", Value.ofText? c.computed.content),
    ("dynamic", .bool c.dynamic)]

/-- A style for people; a star marks what a graph has produced. -/
def styleLines (c : Composition) : List String :=
  if c.style.isEmpty then []
  else
    let line (entry : String × Value) :=
      let mark := if (Fields.get? c.computed.style entry.1).isSome then "*" else " "
      "   " ++ mark ++ " " ++ entry.1 ++ ": " ++ Report.excerpt Report.excerptLength entry.2
    "  Style:" :: c.style.map line ++ ["\n  (* = produced by a graph)"]

/-- A composition for people. -/
def compositionLines (element : Element) (c : Composition) : List String :=
  ["\nElement: " ++ element.id ++ " (" ++ element.kind ++ ")"] ++
  (if c.dynamic then [] else ["  No graphs attached; showing static appearance."]) ++
  ["  Content: " ++ Report.excerpt Report.excerptLength (.str c.content)] ++
  styleLines c

/-- An element in a context. -/
def describeElement (host : Host) (project : Project) (id : String) (hovered clicked : Bool)
    (time : Float) (json : JsonRequest) : Except Fault Result :=
  match project.element? id with
  | none => .ok (.failed ("No element with id '" ++ id ++ "'"))
  | some element => do
    let c ← Composition.standalone project ⟨hovered, clicked, .float time⟩ element
    if json.wanted then
      giveJson host "eval" (compositionData id hovered clicked time c) json.file
    else return .printed (compositionLines element c)

/-! ## Graphs -/

/-- The graph with an id and where it comes from: a component, a script, or the graph of the
element with this id. -/
def findGraph (project : Project) (id : String) : Except Fault (Option (String × Graph)) := do
  if let some graph ← project.component (.str id) then return some ("component", graph)
  if let some graph ← project.script (.str id) then return some ("script", graph)
  return ((project.element? id).bind (·.ownGraph)).map fun graph => ("element", graph)

/-- A graph for other programs: its nodes with the number of nodes that they are linked with. -/
def graphData (id origin : String) (graph : Graph) : Value :=
  let links := graph.links
  let node (n : Node) := Value.obj (Fields.merge n.toSnapshot.fields
    [("in_degree", .int (Link.inDegree links n.id)),
      ("out_degree", .int (Link.outDegree links n.id))])
  let issue (i : Issue) := Value.obj
    [("code", .str i.code), ("message", .str i.message), ("node_id", .str i.nodeId)]
  .obj [("id", .str id), ("kind", .str origin), ("name", graph.name),
    ("nodes", .list (graph.nodes.map node)),
    ("connections", .list (graph.connections.map Connection.toSnapshot)),
    ("issues", .list (graph.issues.map issue))]

/-- The line of a table about a node: its id, kind and value and the sockets that are wired. -/
def nodeRow (graph : Graph) (node : Node) : List String :=
  let sockets := (graph.connections.filter (·.target == node.id)).map (·.socket)
  let sorted := sockets.mergeSort fun a b => !decide (b < a)
  [node.id, node.kind, Report.excerpt 30 node.literal,
    if sorted.isEmpty then Report.missing else ", ".intercalate sorted]

/-- What is wrong with a graph, for people. -/
def issueLines (graph : Graph) : List String :=
  let issues := graph.issues
  if issues.isEmpty then ["\n  No issues found."]
  else ("\n  Issues (" ++ toString issues.length ++ "):") ::
    issues.map fun i => "    [" ++ i.code ++ "] " ++ i.message

/-- A graph for people. -/
def graphLines (path id origin : String) (graph : Graph) : List String :=
  let label := if graph.name.isFilled then graph.name.display else id
  ["\nGraph: " ++ label ++ " (" ++ origin ++ ") | " ++ toString graph.nodes.length ++
    " nodes | " ++ toString graph.connections.length ++ " connections\n"] ++
  Report.columns ["Node", "Type", "Value", "Inputs"] (graph.nodes.map (nodeRow graph)) 2 ++
  issueLines graph ++
  ["\n  For JSON: stylegraph graph inspect " ++ path ++ " " ++ id ++ " --json"]

/-- A graph of the libraries or of an element. -/
def describeGraph (host : Host) (project : Project) (path id : String) (json : JsonRequest) :
    Except Fault Result := do
  match ← findGraph project id with
  | none => return .failed ("No component, script or element graph with id '" ++ id ++ "'")
  | some (origin, graph) =>
    if json.wanted then giveJson host "graph.inspect" (graphData id origin graph) json.file
    else return .printed (graphLines path id origin graph)

end DesignGraph.Command
