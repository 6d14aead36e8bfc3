import DesignGraph.Operation.Basic
import DesignGraph.Action.Trigger
/-!
# Evaluation

Evaluating a graph means running the programs of its nodes on demand. An override replaces a node
and everything before it; a value that was computed once is remembered for the rest of the
evaluation; a node that is asked for while its own program is running, and an id that addresses
no node, give null. What leaves an evaluation is a style and a content; fired actions, trigger
memory and samples are threaded through it, and so is a trail of what was asked for and answered.

## Main definitions

* `DesignGraph.Context` — hover, click and time as the graphs see them.
* `DesignGraph.Evaluation.Setting` — what stays fixed during an evaluation.
* `DesignGraph.Evaluation.Progress` — what changes.
* `DesignGraph.Evaluation.value` — the signal of a node.
* `DesignGraph.Evaluation.run` — the appearance that a graph gives.
-/

namespace DesignGraph

/-- What the graphs of an element see of the outside. -/
structure Context where
  hovered : Bool
  clicked : Bool
  time : Value
  deriving DecidableEq, Repr

/-- Not hovered, not clicked, at the start. -/
def Context.initial : Context := ⟨false, false, .float 0⟩

/-- What a graph makes visible: a style, and a content unless its content socket is unwired. -/
structure Appearance where
  style : Fields
  content : Option String
  deriving DecidableEq, Repr

namespace Evaluation

/-- What stays fixed during an evaluation. Actions go to an outlet of type `σ`, which may refuse
them. -/
structure Setting (σ : Type) where
  graph : Graph
  overrides : Fields
  context : Context
  /-- The random samples in the order in which they are drawn. -/
  samples : Nat → Float
  /-- Takes the event of a fired action. -/
  post : Event → σ → Option Fault × σ

/-- How a request for a node's value was met. -/
inductive Answer where
  /-- By an override. -/
  | overridden
  /-- From memory. -/
  | recalled
  /-- With null, since the program of the node is running. -/
  | cut
  /-- With null, since there is no such node. -/
  | absent
  /-- By running the node's program. -/
  | entered
  deriving DecidableEq, Repr

/-- One request for a node's value, made while the programs on `path` were running, innermost
first. -/
structure Visit where
  id : String
  path : List String
  answer : Answer
  deriving DecidableEq, Repr

/-- A request that the program of a node made, with what it was answered. -/
structure Exchange where
  node : String
  request : Request
  answer : request.Answer

/-- What changes during an evaluation. -/
structure Progress (σ : Type) where
  /-- The remembered signals, in the order in which they were computed. -/
  memo : List (String × Signal)
  /-- The last trigger value of every action node. -/
  triggers : Fields
  /-- The number of samples drawn. -/
  drawn : Nat
  /-- Where fired actions have gone. -/
  outlet : σ
  /-- The requests for values so far. -/
  trail : List Visit
  /-- The requests that programs made so far, in the order in which they were answered. -/
  exchanges : List Exchange

/-- The start of an evaluation: nothing is remembered but triggers and samples. -/
def Progress.start {σ : Type} (triggers : Fields) (drawn : Nat) (outlet : σ) : Progress σ :=
  ⟨[], triggers, drawn, outlet, [], []⟩

/-- A step of an evaluation: a result or a fault, and the progress made in either case. -/
abbrev Step (σ α : Type) := Progress σ → Except Fault α × Progress σ

variable {σ : Type}

/-- Notes a request and how it is met. -/
def note (id : String) (path : List String) (answer : Answer) (p : Progress σ) : Progress σ :=
  { p with trail := p.trail ++ [⟨id, path, answer⟩] }

/-- Meets a request of the program of `node`; `read` gives the signals of other nodes. -/
def meet (setting : Setting σ) (node : Node) (read : String → Step σ Signal) :
    (request : Request) → Step σ request.Answer
  | .read socket, p =>
    match setting.graph.source? node.id socket with
    | some source => read source p
    | none => (.ok ⟨.null, node.id⟩, p)
  | .isWired socket, p => (.ok (setting.graph.isWired node.id socket), p)
  | .hovered, p => (.ok setting.context.hovered, p)
  | .clicked, p => (.ok setting.context.clicked, p)
  | .time, p => (.ok setting.context.time, p)
  | .sample, p => (.ok (setting.samples p.drawn), { p with drawn := p.drawn + 1 })
  | .edge trigger, p =>
    let (rises, triggers) := Trigger.step p.triggers node.id trigger
    (.ok rises, { p with triggers := triggers })
  | .fire action, p =>
    let origin : Origin := ⟨.str node.id, setting.graph.id, .null⟩
    match setting.post (Event.ofAction origin action) p.outlet with
    | (none, outlet) => (.ok (), { p with outlet := outlet })
    | (some fault, outlet) => (.error fault, { p with outlet := outlet })

/-- Notes what a program was answered. -/
def record (exchange : Exchange) (p : Progress σ) : Progress σ :=
  { p with exchanges := p.exchanges ++ [exchange] }

/-- Runs the program of the node `id`, meeting its requests one after the other, up to the first
fault. -/
def perform {α : Type} (id : String) (answer : (request : Request) → Step σ request.Answer) :
    Program α → Step σ α
  | .done a, p => (.ok a, p)
  | .fail fault, p => (.error fault, p)
  | .ask request next, p =>
    match answer request p with
    | (.ok a, p) => perform id answer (next a) (record ⟨id, request, a⟩ p)
    | (.error fault, p) => (.error fault, p)

/-- Remembers the signal of a node whose program has come to an end. -/
def remember (id : String) : Except Fault Outcome × Progress σ → Except Fault Signal × Progress σ
  | (.ok outcome, p) =>
    let signal := outcome.signal id
    (.ok signal, { p with memo := p.memo ++ [(id, signal)] })
  | (.error fault, p) => (.error fault, p)

/-- The signal of a node while the programs on `path` are running; `depth` bounds the number of
programs that may yet be started inside one another. -/
def value (setting : Setting σ) : Nat → List String → String → Step σ Signal
  | 0, _, id, p => (.ok ⟨.null, id⟩, p)
  | depth + 1, path, id, p =>
    match Fields.get? setting.overrides id with
    | some v => (.ok ⟨v, id⟩, note id path .overridden p)
    | none =>
      match p.memo.lookup id with
      | some signal => (.ok signal, note id path .recalled p)
      | none =>
        if path.contains id then (.ok ⟨.null, id⟩, note id path .cut p)
        else
          match setting.graph.node? id with
          | none => (.ok ⟨.null, id⟩, note id path .absent p)
          | some node =>
            remember id (perform id (meet setting node (value setting depth (id :: path)))
              node.program (note id path .entered p))

/-- A depth that no evaluation of the graph exceeds: every program that is running belongs to
another node. -/
def depthOf (graph : Graph) : Nat :=
  graph.nodes.length + 1

/-- The signal of a node, asked for from outside. -/
def signal (setting : Setting σ) (id : String) : Step σ Signal :=
  value setting (depthOf setting.graph) [] id

/-- Asks for the nodes one after the other. -/
def visitAll (setting : Setting σ) : List Node → Step σ Unit
  | [], p => (.ok (), p)
  | node :: rest, p =>
    match signal setting node.id p with
    | (.ok _, p) => visitAll setting rest p
    | (.error fault, p) => (.error fault, p)

/-- The value on a socket of the output node, if it is wired. -/
def outputSocket (setting : Setting σ) (output : Node) (socket : String) : Step σ (Option Value)
  | p =>
    match setting.graph.source? output.id socket with
    | none => (.ok none, p)
    | some source =>
      match signal setting source p with
      | (.ok s, p) => (.ok (some s.value), p)
      | (.error fault, p) => (.error fault, p)

/-- The content that a value displays: its text, empty for values that count as false. -/
def contentText (v : Value) : Except Fault String := do
  return Coercion.toText (← Coercion.orDefault v (.str ""))

/-- What the output node displays. Without an output node that is the empty text. -/
def display (setting : Setting σ) : Step σ Appearance
  | p =>
    match setting.graph.output? with
    | none => (.ok ⟨[], some ""⟩, p)
    | some output =>
      match outputSocket setting output "in-style" p with
      | (.error fault, p) => (.error fault, p)
      | (.ok style?, p) =>
        let style := (style?.map Value.fields).getD []
        match outputSocket setting output "in-content" p with
        | (.error fault, p) => (.error fault, p)
        | (.ok none, p) => (.ok ⟨style, none⟩, p)
        | (.ok (some v), p) => ((contentText v).map fun text => ⟨style, some text⟩, p)

/-- Evaluates a graph: every action node, then what the output node displays. -/
def run (setting : Setting σ) : Step σ Appearance
  | p =>
    match visitAll setting setting.graph.actions p with
    | (.ok (), p) => display setting p
    | (.error fault, p) => (.error fault, p)

end Evaluation

end DesignGraph
