import DesignGraph.Evaluation
import DesignGraph.Project.Basic
/-!
# Composition

What an element looks like: its static style and content under what its graphs give. The graph
that defines a custom element comes first, the attached scripts follow in order; a later graph
wins where styles conflict and replaces the content when it gives any.

## Main definitions

* `DesignGraph.Element.definition` — the graph that defines a custom element.
* `DesignGraph.Element.graphs` — the graphs of an element, in composition order.
* `DesignGraph.Composition` — the effective appearance of an element.
* `DesignGraph.Composition.compose` — composing an element.
-/

namespace DesignGraph

namespace Element

/-- The graph that defines a custom element: its own one when it is detached and has one, else
the shared component. -/
def definition (element : Element) (project : Project) : Except Fault (Option Graph) :=
  if !element.isCustom then .ok none
  else
    match element.isDetached, element.ownGraph with
    | true, some graph => .ok (some graph)
    | _, _ => project.component (.ofText? element.componentId)

/-- The attached scripts that exist. -/
def scriptGraphs (project : Project) : List String → Except Fault (List Graph)
  | [] => .ok []
  | id :: rest => do
    let script ← project.script (.str id)
    return script.toList ++ (← scriptGraphs project rest)

/-- The graphs of an element, in composition order. -/
def graphs (element : Element) (project : Project) : Except Fault (List Graph) := do
  let definition ← element.definition project
  return definition.toList ++ (← scriptGraphs project element.scripts)

end Element

/-- The effective appearance of an element. -/
structure Composition where
  /-- The static style under the computed one. -/
  style : Fields
  /-- The computed content, else the static one, else nothing. -/
  content : String
  /-- What the graphs alone give. -/
  computed : Appearance
  /-- Whether the element has graphs. -/
  dynamic : Bool
  deriving DecidableEq, Repr

namespace Composition

/-- What stays fixed while an element is composed. -/
structure Setting (σ : Type) where
  project : Project
  element : Element
  context : Context
  /-- The random samples in the order in which they are drawn. -/
  samples : Nat → Float
  /-- Whether triggers are remembered from one graph to the next. -/
  remembers : Bool
  /-- Takes the event of a fired action. -/
  post : Event → σ → Option Fault × σ

/-- What changes while an element is composed. -/
structure Progress (σ : Type) where
  /-- The last trigger value of every action node. -/
  triggers : Fields
  /-- The number of samples drawn. -/
  drawn : Nat
  /-- Where fired actions have gone. -/
  outlet : σ

variable {σ : Type}

/-- The setting in which a graph of the element is evaluated. -/
def Setting.forGraph (setting : Setting σ) (graph : Graph) : Evaluation.Setting σ where
  graph := graph
  overrides := setting.element.overrides
  context := setting.context
  samples := setting.samples
  post := setting.post

/-- The start of the next graph's evaluation. -/
def Setting.start (setting : Setting σ) (p : Progress σ) : Evaluation.Progress σ :=
  .start (if setting.remembers then p.triggers else []) p.drawn p.outlet

/-- What remains of an evaluation's progress. -/
def Progress.after (p : Evaluation.Progress σ) : Progress σ :=
  ⟨p.triggers, p.drawn, p.outlet⟩

/-- An appearance laid over another one: its style wins conflicts, and its content counts when
there is any. -/
def overlay (base top : Appearance) : Appearance :=
  ⟨Fields.merge base.style top.style, top.content.or base.content⟩

/-- The appearance without graphs. -/
def bare : Appearance := ⟨[], none⟩

/-- Evaluates graphs one after the other, each one laid over those before it. -/
def evaluateAll (setting : Setting σ) : List Graph → Appearance → Progress σ →
    Except Fault Appearance × Progress σ
  | [], below, p => (.ok below, p)
  | graph :: rest, below, p =>
    match Evaluation.run (setting.forGraph graph) (setting.start p) with
    | (.ok appearance, q) => evaluateAll setting rest (overlay below appearance) (.after q)
    | (.error fault, q) => (.error fault, .after q)

/-- The composition of an element whose graphs give the computed appearance. -/
def ofComputed (element : Element) (computed : Appearance) (dynamic : Bool) : Composition where
  style := Fields.merge element.style computed.style
  content := computed.content.getD (element.content.getD "")
  computed := computed
  dynamic := dynamic

/-- Composes an element. -/
def compose (setting : Setting σ) (p : Progress σ) : Except Fault Composition × Progress σ :=
  match setting.element.graphs setting.project with
  | .error fault => (.error fault, p)
  | .ok graphs =>
    match evaluateAll setting graphs bare p with
    | (.ok computed, p) => (.ok (ofComputed setting.element computed (!graphs.isEmpty)), p)
    | (.error fault, p) => (.error fault, p)

/-- Takes events and does nothing with them. -/
def discard : Event → Unit → Option Fault × Unit :=
  fun _ _ => (none, ())

/-- The random samples where no source is given. -/
def halves : Nat → Float :=
  fun _ => 0.5

/-- The composition of an element in a context by itself: triggers start without memory and fired
actions lead nowhere. -/
def standalone (project : Project) (context : Context) (element : Element) :
    Except Fault Composition :=
  (compose ⟨project, element, context, halves, false, discard⟩ ⟨[], 0, ()⟩).1

end Composition

end DesignGraph
