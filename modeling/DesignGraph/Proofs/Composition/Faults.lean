import DesignGraph.Proofs.Evaluation.Faults
import DesignGraph.Proofs.Outcome
/-!
# What compositions fail of

The graphs of an element are looked up in the libraries of the design and evaluated one after the
other. A missing graph is skipped, but a graph whose id cannot be a key keeps every other graph of
its library from being found. An evaluation fails only of values that are too large.

## Main definitions

* `DesignGraph.Project.HidesGraphs` — the fault of a library in which nothing can be looked up.
* `DesignGraph.Composition.Setting.Meets` — the values that the evaluations of graphs have to do
  with.

## Main results

* `DesignGraph.Element.failsWith_graphs` — the graphs of an element are found unless a library hides
  them.
* `DesignGraph.Composition.failsWith_evaluateAll` — graphs fail of values that are too large.
* `DesignGraph.Composition.failsWith_compose` — so do compositions.
-/

set_option relaxedAutoImplicit false
set_option autoImplicit false

namespace DesignGraph

open Coercion Evaluation

/-! ## Libraries -/

/-- The fault of a library in which nothing can be looked up, since the id of one of its graphs
cannot be a key. -/
def Project.HidesGraphs (project : Project) (f : Fault) : Prop :=
  f = .wrongKind ∧ ∃ graph ∈ project.components ++ project.scripts, graph.id.isKey = false

lemma Project.failsWith_graphIn (library : List Graph) {id : Value} (hid : id.isKey = true) :
    FailsWith (fun f => f = .wrongKind ∧ ∃ graph ∈ library, graph.id.isKey = false)
      (graphIn library id) := by
  unfold graphIn
  split
  · rename_i hany
    obtain ⟨graph, hgraph, hkey⟩ := List.any_eq_true.1 hany
    exact failsWith_error.2 ⟨rfl, graph, hgraph, by simpa using hkey⟩
  · rw [show id.asKey = .ok id from if_pos hid]
    exact failsWith_pure _

namespace Element

variable {project : Project}

lemma failsWith_definition (element : Element) :
    FailsWith project.HidesGraphs (element.definition project) := by
  have hcomponent : FailsWith project.HidesGraphs
      (project.component (.ofText? element.componentId)) := by
    rcases element.componentId with _ | id
    · exact failsWith_ok _
    · exact (Project.failsWith_graphIn project.components rfl).mono fun f h =>
        ⟨h.1, h.2.imp fun _ hgraph => ⟨List.mem_append_left _ hgraph.1, hgraph.2⟩⟩
  unfold definition
  split
  · exact failsWith_ok _
  · split
    · exact failsWith_ok _
    · exact hcomponent

lemma failsWith_scriptGraphs (ids : List String) :
    FailsWith project.HidesGraphs (scriptGraphs project ids) := by
  induction ids with
  | nil => exact failsWith_ok _
  | cons id rest ih =>
    have hkey : Value.isKey (.str id) = true := rfl
    refine FailsWith.bind ?_ fun _ _ => ih.bind fun _ _ => failsWith_pure _
    exact (Project.failsWith_graphIn project.scripts hkey).mono fun f h =>
      ⟨h.1, h.2.imp fun _ hgraph => ⟨List.mem_append_right _ hgraph.1, hgraph.2⟩⟩

/-- **The graphs of an element are found unless a library hides them.** -/
lemma failsWith_graphs (element : Element) :
    FailsWith project.HidesGraphs (element.graphs project) :=
  element.failsWith_definition.bind fun _ _ =>
    (failsWith_scriptGraphs element.scripts).bind fun _ _ => failsWith_pure _

end Element

/-! ## Compositions -/

namespace Composition

variable {σ : Type}

/-- A value that the evaluation of one of the graphs has to do with. -/
def Setting.Meets (setting : Setting σ) (graphs : List Graph) (v : Value) : Prop :=
  ∃ graph ∈ graphs, ∃ p,
    InPlay (setting.forGraph graph) (run (setting.forGraph graph) (setting.start p)).2 v

/-- **Graphs that are evaluated one after the other fail only of values that are too large**, as
long as nobody refuses an action and the time is a number. -/
lemma failsWith_evaluateAll {setting : Setting σ} (htime : isNumber setting.context.time = true)
    (hpost : ∀ graph, (setting.forGraph graph).Welcomes fun _ => True) (graphs : List Graph)
    (below : Appearance) (p : Progress σ) :
    FailsWith (TooLargeIn (setting.Meets graphs)) (evaluateAll setting graphs below p).1 := by
  induction graphs generalizing below p with
  | nil => exact failsWith_ok _
  | cons graph rest ih =>
    rw [evaluateAll]
    rcases hrun : run (setting.forGraph graph) (setting.start p) with ⟨fault | appearance, q⟩
    · obtain ⟨rfl, v, hv, hlarge⟩ := run_failsOnly (admits_inPlay htime q) (hpost graph) hrun
        trivial fun _ _ => .computed
      refine failsWith_error.2 ⟨rfl, v, ⟨graph, List.mem_cons_self, p, ?_⟩, hlarge⟩
      rwa [hrun]
    · refine (ih (overlay below appearance) (.after q)).mono ?_
      rintro f ⟨hf, v, ⟨graph', hgraph', p', hv⟩, hlarge⟩
      exact ⟨hf, v, ⟨graph', List.mem_cons_of_mem _ hgraph', p', hv⟩, hlarge⟩

/-- **A composition fails only of values that are too large**, unless a library hides the graphs of
the element. -/
theorem failsWith_compose {setting : Setting σ} (htime : isNumber setting.context.time = true)
    (hpost : ∀ graph, (setting.forGraph graph).Welcomes fun _ => True) (p : Progress σ) :
    FailsWith (fun f => setting.project.HidesGraphs f ∨
      ∃ graphs, setting.element.graphs setting.project = .ok graphs ∧
        TooLargeIn (setting.Meets graphs) f) (compose setting p).1 := by
  have hgraphs : FailsWith setting.project.HidesGraphs (setting.element.graphs setting.project) :=
    setting.element.failsWith_graphs
  rw [compose]
  rcases hfound : setting.element.graphs setting.project with fault | graphs
  · rw [hfound] at hgraphs
    exact failsWith_error.2 (.inl (failsWith_error.1 hgraphs))
  · have hall := failsWith_evaluateAll htime hpost graphs bare p
    dsimp only
    rcases heval : evaluateAll setting graphs bare p with ⟨fault | computed, q⟩
    · rw [heval] at hall
      exact failsWith_error.2 (.inr ⟨graphs, rfl, failsWith_error.1 hall⟩)
    · exact failsWith_ok _

/-- The setting in which an element is composed by itself. -/
def standing (project : Project) (context : Context) (element : Element) : Setting Unit :=
  ⟨project, element, context, halves, false, discard⟩

/-- The composition of an element by itself refuses no action. -/
lemma failsWith_standalone (project : Project) {context : Context}
    (htime : isNumber context.time = true) (element : Element) :
    FailsWith (fun f => project.HidesGraphs f ∨ ∃ graphs, element.graphs project = .ok graphs ∧
      TooLargeIn ((standing project context element).Meets graphs) f)
      (standalone project context element) :=
  @failsWith_compose _ (standing project context element) htime
    (fun _ => ⟨fun _ _ _ _ => rfl, fun _ _ _ => trivial⟩) _

end Composition

end DesignGraph
