import DesignGraph.Proofs.Evaluation.Muted
import DesignGraph.Proofs.Live.Deliveries
/-!
# What a composition depends on

A composition of steady graphs depends on its element and the design, on what the graphs see of the
outside, and on the triggers it starts from. Neither the samples nor those who hear of its actions
have a bearing on it, as long as no action is refused: it gives the same appearance or the same
fault, leaves the same triggers and fires the same events, also those of a graph that ends in a
fault.

## Main definitions

* `DesignGraph.Composition.Setting.muted`, `DesignGraph.Composition.Progress.muted` — a composition
  that nobody hears.
* `DesignGraph.Composition.posted` — what a composition fires, also if it ends in a fault.
* `DesignGraph.Project.IsSteady` — a design without random nodes.

## Main results

* `DesignGraph.Composition.compose_alike` — compositions that start alike come to the same.
* `DesignGraph.Composition.posted_take` — the outlet of a composition has taken what it fires.
* `DesignGraph.Composition.compose_eq_standalone` — an element looks as it does by itself.
-/

set_option relaxedAutoImplicit false
set_option autoImplicit false

namespace DesignGraph

open Evaluation

namespace Composition

variable {σ τ : Type}

/-- The same composition with nobody to hear of actions; every sample is one half. -/
def Setting.muted (setting : Setting σ) : Setting Unit :=
  ⟨setting.project, setting.element, setting.context, halves, setting.remembers, discard⟩

/-- The same progress with nobody to hear of actions. -/
def Progress.muted (p : Progress σ) : Progress Unit :=
  ⟨p.triggers, 0, ()⟩

/-- The events of actions are not refused by an outlet that satisfies `Q`, whichever graph fires
them, and every event keeps that. -/
def Setting.Welcomes (setting : Setting σ) (Q : σ → Prop) : Prop :=
  ∀ graph, (setting.forGraph graph).Welcomes Q

/-- What graphs fire that are evaluated one after the other, in order. The last one of them may end
in a fault. -/
def posted (setting : Setting σ) : List Graph → Progress σ → List Event
  | [], _ => []
  | graph :: rest, p =>
    match run (setting.forGraph graph) (setting.start p) with
    | (.ok _, q) => events graph q.exchanges ++ posted setting rest (.after q)
    | (.error _, q) => events graph q.exchanges

section Muted

variable {setting : Setting σ} {Q : σ → Prop} {p : Progress σ} {graphs : List Graph}

/-- What an evaluation leaves of an outlet that welcomes actions welcomes them. -/
lemma Setting.Welcomes.after (hpost : setting.Welcomes Q) (hp : Q p.outlet) {graph : Graph}
    {x : Except Fault Appearance} {q : Evaluation.Progress σ}
    (hrun : run (setting.forGraph graph) (setting.start p) = (x, q)) : Q q.outlet := by
  have hkept := run_keeps_effects (P := fun _ => Q) (p := setting.start p)
    (Setting.keeps_of_post (hpost graph).keeps) hp
  rwa [hrun] at hkept

/-- A graph of a composition goes the same way with nobody listening. -/
lemma run_forGraph_muted (hpost : setting.Welcomes Q) {graph : Graph} (hsteady : graph.IsSteady)
    (hp : Q p.outlet) :
    run (setting.muted.forGraph graph) (setting.muted.start p.muted) =
      hush (run (setting.forGraph graph) (setting.start p)) := by
  have hstart : Q (setting.start p).outlet := hp
  exact run_muted (hpost graph) hsteady hstart

/-- **Steady graphs of a composition go the same way with nobody listening.** -/
lemma evaluateAll_muted (hpost : setting.Welcomes Q) (hsteady : ∀ graph ∈ graphs, graph.IsSteady)
    (below : Appearance) (hp : Q p.outlet) :
    evaluateAll setting.muted graphs below p.muted =
      ((evaluateAll setting graphs below p).1, (evaluateAll setting graphs below p).2.muted) := by
  induction graphs generalizing below p with
  | nil => rfl
  | cons graph rest ih =>
    obtain ⟨hfirst, hrest⟩ := List.forall_mem_cons.1 hsteady
    rw [evaluateAll, evaluateAll, run_forGraph_muted hpost hfirst hp]
    rcases hrun : run (setting.forGraph graph) (setting.start p) with ⟨fault | a, q⟩
    · rfl
    · exact ih hrest (overlay below a) (p := .after q) (hpost.after hp hrun)

/-- What steady graphs fire does not depend on who listens. -/
lemma posted_muted (hpost : setting.Welcomes Q) (hsteady : ∀ graph ∈ graphs, graph.IsSteady)
    (hp : Q p.outlet) : posted setting.muted graphs p.muted = posted setting graphs p := by
  induction graphs generalizing p with
  | nil => rfl
  | cons graph rest ih =>
    obtain ⟨hfirst, hrest⟩ := List.forall_mem_cons.1 hsteady
    rw [posted, posted, run_forGraph_muted hpost hfirst hp]
    rcases hrun : run (setting.forGraph graph) (setting.start p) with ⟨fault | a, q⟩
    · rfl
    · exact congrArg (events graph q.exchanges ++ ·)
        (ih hrest (p := .after q) (hpost.after hp hrun))

end Muted

end Composition

/-- The graphs of the element are steady. -/
def Element.IsSteady (project : Project) (element : Element) : Prop :=
  ∀ graphs, element.graphs project = .ok graphs → ∀ graph ∈ graphs, graph.IsSteady

/-- A design without random nodes. -/
def Project.IsSteady (project : Project) : Prop :=
  ∀ element ∈ project.elements, element.IsSteady project

instance (project : Project) (element : Element) : Decidable (element.IsSteady project) :=
  match h : element.graphs project with
  | .ok graphs =>
    decidable_of_iff (∀ graph ∈ graphs, graph.IsSteady) (by simp [Element.IsSteady, h])
  | .error _ => isTrue fun _ hgraphs => by cases h.symm.trans hgraphs

instance (project : Project) : Decidable project.IsSteady :=
  inferInstanceAs (Decidable (∀ element ∈ project.elements, element.IsSteady project))

namespace Composition

variable {σ τ : Type}

/-! ## Compositions that start alike -/

section Alike

variable {setting : Setting σ} {setting' : Setting τ} {Q : σ → Prop} {Q' : τ → Prop}
  {p : Progress σ} {p' : Progress τ}

/-- A composition of steady graphs goes the same way with nobody listening. -/
lemma compose_muted (hpost : setting.Welcomes Q)
    (hsteady : setting.element.IsSteady setting.project) (hp : Q p.outlet) :
    compose setting.muted p.muted = ((compose setting p).1, (compose setting p).2.muted) := by
  have hfound : setting.muted.element.graphs setting.muted.project =
      setting.element.graphs setting.project := rfl
  rw [compose, compose, hfound]
  rcases hgraphs : setting.element.graphs setting.project with fault | graphs
  · rfl
  · simp only [evaluateAll_muted hpost (hsteady graphs hgraphs) bare hp]
    rcases evaluateAll setting graphs bare p with ⟨fault | computed, q⟩ <;> rfl

/-- **Compositions that start alike come to the same**: the same appearance or the same fault, and
the same triggers. -/
theorem compose_alike (hpost : setting.Welcomes Q) (hpost' : setting'.Welcomes Q')
    (hsteady : setting.element.IsSteady setting.project) (hp : Q p.outlet) (hp' : Q' p'.outlet)
    (hsame : setting'.muted = setting.muted) (hstart : p'.muted = p.muted) :
    (compose setting' p').1 = (compose setting p).1 ∧
      (compose setting' p').2.triggers = (compose setting p).2.triggers := by
  have helement : setting'.element = setting.element := congrArg Setting.element hsame
  have hproject : setting'.project = setting.project := congrArg Setting.project hsame
  have hmuted := compose_muted hpost hsteady hp
  rw [← hsame, ← hstart, compose_muted hpost' (by rwa [helement, hproject]) hp'] at hmuted
  obtain ⟨hresult, hafter⟩ := Prod.mk.inj hmuted
  exact ⟨hresult, congrArg Progress.triggers hafter⟩

/-- Compositions that start alike fire the same. -/
lemma posted_alike (hpost : setting.Welcomes Q) (hpost' : setting'.Welcomes Q')
    (hp : Q p.outlet) (hp' : Q' p'.outlet) (hsame : setting'.muted = setting.muted)
    (hstart : p'.muted = p.muted) {graphs : List Graph}
    (hsteady : ∀ graph ∈ graphs, graph.IsSteady) :
    posted setting' graphs p' = posted setting graphs p := by
  rw [← posted_muted hpost' hsteady hp', hsame, hstart, posted_muted hpost hsteady hp]

/-- **An element looks as it does by itself**, whatever is remembered of triggers. -/
theorem compose_eq_standalone (hpost : setting.Welcomes Q)
    (hsteady : setting.element.IsSteady setting.project) (hp : Q p.outlet) {c c' : Composition}
    {q : Progress σ} (h : compose setting p = (.ok c, q))
    (h' : standalone setting.project setting.context setting.element = .ok c') : c = c' := by
  have hmuted := compose_muted hpost hsteady hp
  rw [h] at hmuted
  obtain ⟨graphs, layers, hgraphs, hlayers, rfl⟩ := compose_ok hmuted
  have halone : compose ⟨setting.project, setting.element, setting.context, halves, false, discard⟩
      ⟨[], 0, ()⟩ = (.ok c', _) := Prod.ext h' rfl
  obtain ⟨graphs', layers', hgraphs', hlayers', rfl⟩ := compose_ok halone
  cases hgraphs'.symm.trans hgraphs
  rw [displays_unique hlayers' hlayers (hsteady graphs hgraphs)]
  rfl

end Alike

/-! ## Where events go -/

section Outlets

variable {setting : Setting Outlet} {element : String} {p q : Progress Outlet}

/-- An outlet that is not strict welcomes the actions of an element. -/
lemma welcomes_of_post (hpost : setting.post = Outlet.post element) :
    setting.Welcomes fun o => o.dispatcher.strict = false := by
  intro graph
  refine ⟨fun origin action o ho => ?_, fun event o ho => ?_⟩
  · obtain ⟨d, hemit, -⟩ := Dispatcher.emit_takes ho (.str element)
      (Event.isSome_origin?_ofAction origin action)
    change (setting.post (.ofAction origin action) o).1 = none
    rw [hpost]
    exact congrArg Prod.fst hemit
  · change (setting.post event o).2.dispatcher.strict = false
    rw [hpost]
    exact (o.dispatcher.strict_emit (.str element) event).trans ho

/-- **The outlet of a composition has taken what it fires**, also if it ends in a fault. -/
theorem posted_take (hpost : setting.post = Outlet.post element)
    (hp : p.outlet.dispatcher.strict = false) (graphs : List Graph) (below : Appearance) :
    Outlet.Takes ((posted setting graphs p).map (Event.stamp (.str element)))
      p.outlet (evaluateAll setting graphs below p).2.outlet := by
  induction graphs generalizing below p with
  | nil => exact .refl _
  | cons graph rest ih =>
    have hdelivered := run_delivers_all (welcomes_of_post hpost graph)
      (if setting.remembers then p.triggers else []) p.drawn hp
    rw [evaluateAll, posted]
    rcases hrun : run (setting.forGraph graph) (setting.start p) with ⟨fault | a, q⟩ <;>
      rw [Setting.start] at hrun <;> rw [hrun] at hdelivered
    all_goals
      have hfirst : Outlet.Takes ((events graph q.exchanges).map (Event.stamp (.str element)))
          p.outlet q.outlet := by
        rw [show q.outlet = _ from hdelivered,
          show (setting.forGraph graph).post = Outlet.post element from hpost]
        refine Outlet.foldl_post_takes hp fun event hevent => ?_
        obtain ⟨node, action, rfl⟩ := exists_of_mem_events hevent
        exact Event.isSome_origin?_ofAction _ action
    · exact hfirst
    · rw [List.map_append]
      exact hfirst.trans (ih (p := .after q) (hfirst.lenient hp) (overlay below a))

/-- What a composition fires that returns is what its evaluations fire. -/
lemma fired_calls {graphs : List Graph} {below computed : Appearance}
    (h : evaluateAll setting graphs below p = (.ok computed, q)) :
    (calls setting graphs p).flatMap (Evaluation.Call.fired element) =
      (posted setting graphs p).map (Event.stamp (.str element)) := by
  induction graphs generalizing below p with
  | nil => rfl
  | cons graph rest ih =>
    rw [evaluateAll] at h
    rw [calls, posted]
    rcases hrun : run (setting.forGraph graph) (setting.start p) with ⟨fault | a, q₁⟩
    · rw [hrun] at h
      cases h
    · rw [hrun] at h
      rw [List.map_append, List.flatMap_cons, ih h]
      rfl

end Outlets

end Composition

end DesignGraph
