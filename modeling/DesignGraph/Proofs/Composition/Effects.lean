import DesignGraph.Composition
import DesignGraph.Proofs.Evaluation.Course
/-!
# What evaluations keep

Whatever an evaluation asks for, only looks at triggers and fired actions leave something behind
for the next one. So a property of the trigger memory and the outlet that holds at the start, and
that no request of the nodes' programs breaks, holds at the end: of one evaluation, and of a
composition, which evaluates several graphs in a row. This covers evaluations that end in a fault.

## Main definitions

* `DesignGraph.Evaluation.Setting.Keeps` — no request of a program in the graph breaks a property.

## Main results

* `DesignGraph.Evaluation.Runs.keeps` — no request breaks it, so the evaluation does not.
* `DesignGraph.Composition.compose_keeps` — a composition keeps what its graphs keep.
-/

set_option relaxedAutoImplicit false
set_option autoImplicit false

namespace DesignGraph

namespace Evaluation

variable {σ : Type}

/-- A property of the trigger memory and the outlet survives a request of the given node. -/
def Setting.RequestKeeps (setting : Setting σ) (P : Fields → σ → Prop) (node : Node)
    (request : Request) : Prop :=
  ∀ p : Progress σ, P p.triggers p.outlet →
    P (effect setting node request p).triggers (effect setting node request p).outlet

/-- A property survives every request that the program of a node in the graph can make. -/
def Setting.Keeps (setting : Setting σ) (P : Fields → σ → Prop) : Prop :=
  ∀ id node, setting.graph.node? id = some node →
    node.program.Within (setting.RequestKeeps P node) fun _ => True

/-- What is left of a program makes only requests that a property survives. -/
def Job.Keeps (setting : Setting σ) (P : Fields → σ → Prop) : Job → Prop
  | .value _ => True
  | .rest node program => program.Within (setting.RequestKeeps P node) fun _ => True

section Keeps

variable {setting : Setting σ} {P : Fields → σ → Prop}

/-- A property of the outlet alone survives a request if every event keeps it. -/
lemma Setting.requestKeeps_of_post {Q : σ → Prop}
    (hpost : ∀ event outlet, Q outlet → Q (setting.post event outlet).2) (node : Node)
    (request : Request) : setting.RequestKeeps (fun _ => Q) node request := by
  intro p hp
  cases request with
  | fire action => exact hpost _ _ hp
  | _ => exact hp

/-- A property of the outlet alone survives if every event keeps it. -/
lemma Setting.keeps_of_post {Q : σ → Prop}
    (hpost : ∀ event outlet, Q outlet → Q (setting.post event outlet).2) :
    setting.Keeps fun _ => Q :=
  fun _ node _ => node.program_within.mono
    (fun request _ => requestKeeps_of_post hpost node request) fun _ _ => trivial

/-- **A property that no request breaks is kept by the evaluation**, also by one that ends in a
fault. -/
lemma Runs.keeps {path : List String} {job : Job} {p : Progress σ}
    {r : Except Fault Signal × Progress σ} (hgraph : setting.Keeps P)
    (h : Runs setting path job p r) (hjob : job.Keeps setting P) (hp : P p.triggers p.outlet) :
    P r.2.triggers r.2.outlet := by
  induction h with
  | overridden | recalled | cut | absent | done | fail => exact hp
  | entered _ _ _ hn _ ih | failed _ _ _ hn _ ih => exact ih (hgraph _ _ hn) hp
  | wired _ _ _ ihv ih => exact ih (hjob.2 _) (ihv trivial hp)
  | broken _ _ ihv => exact ihv trivial hp
  | met hl hm _ ih =>
    refine ih (hjob.2 _) ?_
    obtain rfl := eq_effect_of_meet hl hm
    exact hjob.1 _ hp
  | refused hl hm =>
    obtain rfl := eq_effect_of_meet hl hm
    exact hjob.1 _ hp

/-- A property that no request breaks is kept by a whole evaluation. -/
lemma run_keeps_effects (hgraph : setting.Keeps P) {p : Progress σ} (hp : P p.triggers p.outlet) :
    P (run setting p).2.triggers (run setting p).2.outlet :=
  run_keeps (P := fun q => P q.triggers q.outlet)
    (fun id q => (signal_runs setting id q).keeps hgraph trivial) hp

end Keeps

end Evaluation

namespace Composition

section Keeps

variable {σ : Type} {setting : Setting σ} {P : Fields → σ → Prop}

/-- What holds of the memory that is handed on holds of the memory with which the next graph
starts. -/
def Setting.Hands (setting : Setting σ) (P : Fields → σ → Prop) : Prop :=
  ∀ triggers outlet, P triggers outlet → P (if setting.remembers then triggers else []) outlet

/-- A memory that is handed on is handed on as it is. -/
lemma Setting.hands_of_remembers (h : setting.remembers = true) : setting.Hands P := by
  intro triggers outlet hp
  rwa [if_pos h]

/-- Evaluating graphs one after the other keeps what each of them keeps. -/
lemma evaluateAll_keeps (hhands : setting.Hands P) {graphs : List Graph}
    (hgraphs : ∀ graph ∈ graphs, (setting.forGraph graph).Keeps P) (below : Appearance)
    {p : Progress σ} (hp : P p.triggers p.outlet) :
    P (evaluateAll setting graphs below p).2.triggers
      (evaluateAll setting graphs below p).2.outlet := by
  induction graphs generalizing below p with
  | nil => exact hp
  | cons graph rest ih =>
    obtain ⟨hgraph, hrest⟩ := List.forall_mem_cons.1 hgraphs
    have hrun := Evaluation.run_keeps_effects (p := setting.start p) hgraph (hhands _ _ hp)
    rw [evaluateAll]
    rcases hq : Evaluation.run (setting.forGraph graph) (setting.start p) with ⟨fault | a, q⟩
    · rw [hq] at hrun
      exact hrun
    · rw [hq] at hrun
      exact ih hrest _ hrun

/-- **A composition keeps what each graph of the element keeps**, also one that ends in a fault. -/
lemma compose_keeps (hhands : setting.Hands P)
    (hgraphs : ∀ graphs, setting.element.graphs setting.project = .ok graphs →
      ∀ graph ∈ graphs, (setting.forGraph graph).Keeps P) {p : Progress σ}
    (hp : P p.triggers p.outlet) :
    P (compose setting p).2.triggers (compose setting p).2.outlet := by
  rw [compose]
  rcases hall : setting.element.graphs setting.project with fault | graphs
  · exact hp
  · have hkept := evaluateAll_keeps hhands (hgraphs graphs hall) bare hp
    rcases heq : evaluateAll setting graphs bare p with ⟨fault | a, q⟩ <;>
    · rw [heq] at hkept
      simpa only [heq] using hkept

/-- **What every event keeps of the outlet, a composition keeps.** -/
lemma compose_keeps_outlet {Q : σ → Prop}
    (hpost : ∀ event outlet, Q outlet → Q (setting.post event outlet).2) {p : Progress σ}
    (hp : Q p.outlet) : Q (compose setting p).2.outlet :=
  compose_keeps (P := fun _ => Q) (fun _ _ h => h)
    (fun _ _ _ _ => Evaluation.Setting.keeps_of_post hpost) hp

end Keeps

end Composition

end DesignGraph
