import DesignGraph.Proofs.Evaluation.Faults
/-!
# Evaluations that nobody hears

An evaluation sends its events away and never hears of them again. As long as no action is refused,
it goes on in the same way wherever they go, and a steady graph draws no samples either. So it can
be looked at with nobody listening: it gives the same appearance or the same fault, remembers the
same signals and triggers, and fires the same actions. What it fires has gone to the outlet, also
if it ends in a fault.

## Main definitions

* `DesignGraph.Evaluation.Setting.muted`, `DesignGraph.Evaluation.Progress.muted` — an evaluation
  that nobody hears.
* `DesignGraph.Evaluation.hush` — what an evaluation comes to, with nobody listening.

## Main results

* `DesignGraph.Evaluation.Runs.muted` — an evaluation goes the same way with nobody listening.
* `DesignGraph.Evaluation.run_muted` — so does a whole evaluation.
* `DesignGraph.Evaluation.run_delivers_all` — what a whole evaluation fires has gone to the outlet.
-/

set_option relaxedAutoImplicit false
set_option autoImplicit false

namespace DesignGraph

namespace Evaluation

variable {σ α : Type}

/-- The same evaluation with nobody to hear of actions; every sample is one half. -/
def Setting.muted (setting : Setting σ) : Setting Unit :=
  ⟨setting.graph, setting.overrides, setting.context, fun _ => 0.5, fun _ outlet => (none, outlet)⟩

/-- The same progress with nobody to hear of actions. -/
def Progress.muted (p : Progress σ) : Progress Unit :=
  ⟨p.memo, p.triggers, 0, (), p.trail, p.exchanges⟩

/-- What an evaluation comes to, with nobody to hear of actions. -/
def hush (r : Except Fault α × Progress σ) : Except Fault α × Progress Unit :=
  (r.1, r.2.muted)

section Muted

variable {setting : Setting σ} {Q : σ → Prop} {path : List String} {job : Job} {p q : Progress σ}
  {r : Except Fault Signal × Progress σ} {outlet : σ}

/-- A local request that is no sample is granted with nobody listening as it is otherwise. -/
lemma meet_muted {node : Node} {request : Request} {a : request.Answer}
    (hl : IsLocal setting.graph node request) (hsample : request ≠ .sample)
    (hm : ∀ read, meet setting node read request p = (.ok a, q))
    (read : String → Step Unit Signal) :
    meet setting.muted node read request p.muted = (.ok a, q.muted) := by
  -- no node is read, so any way of reading nodes will do
  have hmet := hm fun id p => (.ok ⟨.null, id⟩, p)
  cases request with
  | read socket =>
    have hl' : setting.muted.graph.source? node.id socket = none := hl socket rfl
    simp only [meet, hl socket rfl] at hmet
    simp only [meet, hl']
    cases hmet
    rfl
  | sample => exact absurd rfl hsample
  | fire action =>
    rw [meet] at hmet
    rcases hposted : setting.post (.ofAction ⟨.str node.id, setting.graph.id, .null⟩ action)
      p.outlet with ⟨_ | fault, outlet⟩
    · simp only [hposted] at hmet
      cases hmet
      rfl
    · simp only [hposted] at hmet
      cases hmet
  | _ =>
    cases hmet
    rfl

/-- **An evaluation of a steady graph goes the same way with nobody listening**, whether it ends in
a fault or not, if no action is refused.

**Proof sketch.** Induction on the rules. Every local request but a sample is granted alike, and
steady graphs have no samples; a request that is refused does not occur. -/
theorem Runs.muted (hpost : setting.Welcomes Q) (hsteady : setting.graph.IsSteady)
    (h : Runs setting path job p r) (hf : Fits setting.graph job) (hp : Q p.outlet) :
    Runs setting.muted path job p.muted (hush r) := by
  have hkeeps : setting.Keeps fun _ => Q := Setting.keeps_of_post hpost.keeps
  induction h with
  | overridden hv => exact .overridden hv
  | recalled ho hs => exact .recalled ho hs
  | cut ho hm hpath => exact .cut ho hm hpath
  | absent ho hm hpath hn => exact .absent ho hm hpath hn
  | @entered path id p node s q ho hm hpath hn _ ih =>
    have hbody : Runs setting.muted (id :: path) (.rest node node.program)
      (note id path .entered p.muted) (.ok s, q.muted) := ih (fits_program hn) hp
    exact @Runs.entered _ setting.muted path id _ node s q.muted ho hm hpath hn hbody
  | failed ho hm hpath hn _ ih => exact .failed ho hm hpath hn (ih (fits_program hn) hp)
  | done => exact .done
  | fail => exact .fail
  | wired hs hv _ ihv ih =>
    have hq := hv.keeps hkeeps trivial hp
    exact .wired hs (ihv trivial hp) (ih (hf.next _) hq)
  | broken hs _ ihv => exact .broken hs (ihv trivial hp)
  | met hl hm _ ih =>
    have hgranted := meet_muted hl (hf.not_sample hsteady) hm
    obtain rfl := eq_effect_of_meet hl hm
    exact .met hl hgranted (ih (hf.next _) (Setting.requestKeeps_of_post hpost.keeps _ _ _ hp))
  | refused hl hm => exact (not_refused hpost hp hl hm).elim

/-- **What an evaluation fires, it delivers**, also if it ends in a fault, as long as no action is
refused. -/
lemma Runs.delivers_all (hpost : setting.Welcomes Q) (h : Runs setting path job p r)
    (hp : Q p.outlet) (hd : Delivered setting outlet p) : Delivered setting outlet r.2 := by
  have hkeeps : setting.Keeps fun _ => Q := Setting.keeps_of_post hpost.keeps
  induction h with
  | overridden | recalled | cut | absent | done | fail => exact hd
  | entered _ _ _ _ _ ih | failed _ _ _ _ _ ih => exact ih hp hd
  | wired _ hv _ ihv ih =>
    have hq := ihv hp hd
    refine ih (hv.keeps hkeeps trivial hp) ?_
    simpa [Delivered, record, events] using hq
  | broken _ _ ihv => exact ihv hp hd
  | met hl hm _ ih =>
    have hdelivered := hd.met hl hm
    obtain rfl := eq_effect_of_meet hl hm
    exact ih (Setting.requestKeeps_of_post hpost.keeps _ _ _ hp) hdelivered
  | refused hl hm => exact (not_refused hpost hp hl hm).elim

/-! ## Whole evaluations -/

/-- A request from outside goes the same way with nobody listening. -/
lemma signal_muted (hpost : setting.Welcomes Q) (hsteady : setting.graph.IsSteady) (id : String)
    (hp : Q p.outlet) : signal setting.muted id p.muted = hush (signal setting id p) :=
  ((signal_runs setting id p).muted hpost hsteady trivial hp).unique
    (signal_runs setting.muted id p.muted)

/-- The action pass goes the same way with nobody listening. -/
lemma visitAll_muted (hpost : setting.Welcomes Q) (hsteady : setting.graph.IsSteady)
    (nodes : List Node) (hp : Q p.outlet) :
    visitAll setting.muted nodes p.muted = hush (visitAll setting nodes p) := by
  induction nodes generalizing p with
  | nil => rfl
  | cons node rest ih =>
    rw [visitAll, visitAll, signal_muted hpost hsteady node.id hp]
    rcases hs : signal setting node.id p with ⟨fault | s, q⟩
    · rfl
    · exact ih (signal_welcomes hpost hs hp)

/-- A socket of the output node is read the same way with nobody listening. -/
lemma outputSocket_muted (hpost : setting.Welcomes Q) (hsteady : setting.graph.IsSteady)
    (output : Node) (socket : String) (hp : Q p.outlet) :
    outputSocket setting.muted output socket p.muted =
      hush (outputSocket setting output socket p) := by
  have hgraph : setting.muted.graph = setting.graph := rfl
  rw [outputSocket, outputSocket, hgraph]
  rcases setting.graph.source? output.id socket with _ | source
  · rfl
  · simp only [signal_muted hpost hsteady source hp]
    rcases signal setting source p with ⟨fault | s, q⟩ <;> rfl

/-- The display is read the same way with nobody listening. -/
lemma display_muted (hpost : setting.Welcomes Q) (hsteady : setting.graph.IsSteady)
    (hp : Q p.outlet) : display setting.muted p.muted = hush (display setting p) := by
  have hgraph : setting.muted.graph = setting.graph := rfl
  rw [display, display, hgraph]
  rcases setting.graph.output? with _ | output
  · rfl
  have hq : Q (outputSocket setting output "in-style" p).2.outlet :=
    outputSocket_keeps (P := fun q => Q q.outlet)
      (fun _ _ => signal_welcomes hpost rfl) output "in-style" hp
  simp only [outputSocket_muted hpost hsteady output "in-style" hp]
  rcases hstyle : outputSocket setting output "in-style" p with ⟨fault | style, q⟩
  · rfl
  rw [hstyle] at hq
  simp only [hush, outputSocket_muted hpost hsteady output "in-content" hq]
  rcases outputSocket setting output "in-content" q with ⟨fault | _ | v, q'⟩ <;> rfl

/-- **A whole evaluation of a steady graph goes the same way with nobody listening.** -/
theorem run_muted (hpost : setting.Welcomes Q) (hsteady : setting.graph.IsSteady)
    (hp : Q p.outlet) : run setting.muted p.muted = hush (run setting p) := by
  have hgraph : setting.muted.graph = setting.graph := rfl
  have hq : Q (visitAll setting setting.graph.actions p).2.outlet :=
    visitAll_keeps (P := fun q => Q q.outlet)
      (fun _ _ => signal_welcomes hpost rfl) setting.graph.actions hp
  rw [run, run, hgraph, visitAll_muted hpost hsteady setting.graph.actions hp]
  rcases hall : visitAll setting setting.graph.actions p with ⟨fault | u, q⟩
  · rfl
  · rw [hall] at hq
    exact display_muted hpost hsteady hq

/-- **What a whole evaluation fires has gone to the outlet**, also if it ends in a fault. -/
theorem run_delivers_all (hpost : setting.Welcomes Q) (triggers : Fields) (drawn : Nat)
    (hp : Q outlet) : Delivered setting outlet (run setting (.start triggers drawn outlet)).2 := by
  have hstart : Q (Progress.start triggers drawn outlet).outlet ∧
      Delivered setting outlet (.start triggers drawn outlet) := ⟨hp, rfl⟩
  refine (run_keeps (P := fun p => Q p.outlet ∧ Delivered setting outlet p) ?_ hstart).2
  rintro id p ⟨hp, hd⟩
  exact ⟨signal_welcomes hpost rfl hp, (signal_runs setting id p).delivers_all hpost hp hd⟩

end Muted

end Evaluation

end DesignGraph
