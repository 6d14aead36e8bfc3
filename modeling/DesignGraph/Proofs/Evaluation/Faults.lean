import DesignGraph.Proofs.Composition.Effects
import DesignGraph.Proofs.Evaluation.Dialogue
import DesignGraph.Proofs.Live.Deliveries
import DesignGraph.Proofs.Operation.Faults
/-!
# What evaluations fail of

A graph may be wired in any way and hold any data, and its evaluation still comes to an appearance.
The one thing that can stop it, as long as actions are not refused and the time is a number, is a
value that stands for a number beyond the doubles. Such a value does not come from nowhere: it is the
time, an override, data of a node, or what a node has computed before.

## Main definitions

* `DesignGraph.Evaluation.InPlay` — the values that an evaluation has to do with.
* `DesignGraph.Evaluation.Setting.Welcomes` — fired actions are never refused.
* `DesignGraph.Dispatcher.offerTo` — actions go to a dispatcher, if there is one.

## Main results

* `DesignGraph.Evaluation.Runs.failsOnly` — an evaluation fails only of values that are too large.
* `DesignGraph.Evaluation.run_failsOnly` — so does a whole evaluation.
* `DesignGraph.Evaluation.run_returns_or_outOfRange` — without a dispatcher, and with one that is not
  strict, every evaluation returns or meets a value that is too large.
-/

set_option relaxedAutoImplicit false
set_option autoImplicit false

namespace DesignGraph

open Coercion

namespace Evaluation

variable {σ : Type}

/-! ## Values in play -/

/-- The values that an evaluation has to do with until it has come to the given progress: null, the
time, overrides, what nodes hold, and what was computed. -/
inductive InPlay (setting : Setting σ) (q : Progress σ) : Value → Prop
  | null : InPlay setting q .null
  | time : InPlay setting q setting.context.time
  | override {id : String} {v : Value} (h : Fields.get? setting.overrides id = some v) :
    InPlay setting q v
  | literal {node : Node} (h : node ∈ setting.graph.nodes) : InPlay setting q node.literal
  | newTab {node : Node} (h : node ∈ setting.graph.nodes) :
    InPlay setting q (Fields.get node.data "newTab")
  | computed {id : String} {s : Signal} (h : (id, s) ∈ q.memo) : InPlay setting q s.value

/-- What an evaluation starts with is among the given values, and the time is a number. -/
structure Setting.Admits (setting : Setting σ) (V : Value → Prop) : Prop where
  null : V .null
  time : V setting.context.time
  isNumber : isNumber setting.context.time = true
  override : ∀ id v, Fields.get? setting.overrides id = some v → V v
  literal : ∀ node ∈ setting.graph.nodes, V node.literal
  newTab : ∀ node ∈ setting.graph.nodes, V (Fields.get node.data "newTab")

/-- What an evaluation starts with is in play. -/
lemma admits_inPlay {setting : Setting σ} (htime : isNumber setting.context.time = true)
    (q : Progress σ) : setting.Admits (InPlay setting q) :=
  ⟨.null, .time, htime, fun _ _ => .override, fun _ => .literal, fun _ => .newTab⟩

/-- The events of actions are not refused by an outlet that satisfies `Q`, and every event keeps
that. -/
structure Setting.Welcomes (setting : Setting σ) (Q : σ → Prop) : Prop where
  accepts : ∀ origin action outlet, Q outlet →
    (setting.post (.ofAction origin action) outlet).1 = none
  keeps : ∀ event outlet, Q outlet → Q (setting.post event outlet).2

/-- What is left of a program fails only of values that are too large. -/
def Job.FailsOnly (V : Value → Prop) : Job → Prop
  | .value _ => True
  | .rest _ program => program.FailsOnly V fun _ => True

section Faults

variable {setting : Setting σ} {V : Value → Prop} {Q : σ → Prop}

/-- A request that looks at no other node is answered with values among the given ones. -/
lemma brings_of_meet (hsetting : setting.Admits V) {node : Node} {request : Request}
    {p q : Progress σ} {a : request.Answer} (hl : IsLocal setting.graph node request)
    (hm : ∀ read, meet setting node read request p = (.ok a, q)) : request.Brings V a := by
  -- no node is read, so any way of reading nodes will do
  have hmet := hm fun id p => (.ok ⟨.null, id⟩, p)
  cases request with
  | read socket =>
    simp only [meet, hl socket rfl] at hmet
    cases hmet
    exact hsetting.null
  | time =>
    cases hmet
    exact ⟨hsetting.time, hsetting.isNumber⟩
  | _ => trivial

/-- A request that looks at no other node is refused by nobody. -/
lemma not_refused (hpost : setting.Welcomes Q) {node : Node} {request : Request}
    {p q : Progress σ} {f : Fault} (hp : Q p.outlet) (hl : IsLocal setting.graph node request)
    (hm : ∀ read, meet setting node read request p = (.error f, q)) : False := by
  have hmet := hm fun id p => (.ok ⟨.null, id⟩, p)
  cases request with
  | read socket =>
    simp only [meet, hl socket rfl] at hmet
    cases hmet
  | fire action =>
    have haccepts := hpost.accepts ⟨.str node.id, setting.graph.id, .null⟩ action p.outlet hp
    rw [meet] at hmet
    rcases hposted : setting.post (.ofAction ⟨.str node.id, setting.graph.id, .null⟩ action)
      p.outlet with ⟨_ | fault, outlet⟩
    · simp only [hposted] at hmet
      cases hmet
    · rw [hposted] at haccepts
      cases haccepts
  | _ => cases hmet

/-- **An evaluation fails only of values that are too large**, and signals bring only values among
the given ones, if what it starts with and what it remembers in the end is among them.

**Proof sketch.** Induction on the rules. What is remembered grows, so a signal that is read on the
way is among the values remembered in the end, or it was among the given ones before. The program of
a node fails only of such values. -/
theorem Runs.failsOnly {path : List String} {job : Job} {p : Progress σ}
    {r : Except Fault Signal × Progress σ} (hsetting : setting.Admits V)
    (hpost : setting.Welcomes Q) (h : Runs setting path job p r) (hjob : job.FailsOnly V)
    (hp : Q p.outlet) (hmemo : ∀ id s, (id, s) ∈ r.2.memo → V s.value) :
    (∀ f, r.1 = .error f → TooLargeIn V f) ∧
      ∀ id s, job = .value id → r.1 = .ok s → V s.value := by
  have hkeeps : setting.Keeps fun _ => Q := Setting.keeps_of_post hpost.keeps
  have hprogram {id : String} {node : Node} (hn : setting.graph.node? id = some node) :
      Job.FailsOnly V (.rest node node.program) :=
    have hmem : node ∈ setting.graph.nodes := List.mem_of_find?_eq_some hn
    Node.program_failsOnly (hsetting.literal node hmem) (hsetting.newTab node hmem)
  induction h with
  | overridden hv =>
    refine ⟨nofun, fun _ _ _ hs => ?_⟩
    cases hs
    exact hsetting.override _ _ hv
  | recalled _ hs =>
    refine ⟨nofun, fun _ _ _ hs' => ?_⟩
    cases hs'
    exact hmemo _ _ (mem_of_lookup hs)
  | cut | absent =>
    refine ⟨nofun, fun _ _ _ hs => ?_⟩
    cases hs
    exact hsetting.null
  | entered =>
    refine ⟨nofun, fun _ _ _ hs => ?_⟩
    cases hs
    exact hmemo _ _ (List.mem_append_right _ (List.mem_singleton_self _))
  | failed _ _ _ hn _ ih =>
    exact ⟨(ih (hprogram hn) hp hmemo).1, nofun⟩
  | done => exact ⟨nofun, nofun⟩
  | fail =>
    refine ⟨fun f hf => ?_, nofun⟩
    cases hf
    exact hjob
  | wired _ hv h ihv ih =>
    have hq := hv.keeps hkeeps trivial hp
    have hs : V _ := (ihv trivial hp fun id s hs => hmemo id s (h.memo_subset hs)).2 _ _ rfl rfl
    exact ⟨(ih (hjob _ hs) hq hmemo).1, nofun⟩
  | broken _ _ ihv => exact ⟨(ihv trivial hp hmemo).1, nofun⟩
  | met hl hm _ ih =>
    have hbrings := brings_of_meet hsetting hl hm
    obtain rfl := eq_effect_of_meet hl hm
    refine ⟨(ih (hjob _ hbrings) ?_ hmemo).1, nofun⟩
    exact Setting.requestKeeps_of_post hpost.keeps _ _ _ hp
  | refused hl hm => exact (not_refused hpost hp hl hm).elim

/-- A request from outside fails only of values that are too large. -/
lemma signal_failsOnly (hsetting : setting.Admits V) (hpost : setting.Welcomes Q) {id : String}
    {p q : Progress σ} {x : Except Fault Signal} (h : signal setting id p = (x, q))
    (hp : Q p.outlet) (hmemo : ∀ id s, (id, s) ∈ q.memo → V s.value) :
    (∀ f, x = .error f → TooLargeIn V f) ∧ ∀ s, x = .ok s → V s.value := by
  obtain ⟨hfault, hvalue⟩ := (runs_of_signal h).failsOnly hsetting hpost trivial hp hmemo
  exact ⟨hfault, fun s => hvalue id s rfl⟩

/-- A request from outside leaves an outlet that does not refuse actions. -/
lemma signal_welcomes (hpost : setting.Welcomes Q) {id : String} {p q : Progress σ}
    {x : Except Fault Signal} (h : signal setting id p = (x, q)) (hp : Q p.outlet) : Q q.outlet :=
  (runs_of_signal h).keeps (P := fun _ => Q) (Setting.keeps_of_post hpost.keeps) trivial hp

/-- The action pass fails only of values that are too large. -/
lemma visitAll_failsOnly (hsetting : setting.Admits V) (hpost : setting.Welcomes Q)
    {nodes : List Node} {p q : Progress σ} {f : Fault}
    (h : visitAll setting nodes p = (.error f, q)) (hp : Q p.outlet)
    (hmemo : ∀ id s, (id, s) ∈ q.memo → V s.value) : TooLargeIn V f := by
  induction nodes generalizing p with
  | nil => cases h
  | cons node rest ih =>
    rw [visitAll] at h
    rcases hs : signal setting node.id p with ⟨fault | s, q'⟩
    · rw [hs] at h
      cases h
      exact (signal_failsOnly hsetting hpost hs hp hmemo).1 _ rfl
    · rw [hs] at h
      exact ih h (signal_welcomes hpost hs hp)

/-- Reading a socket of the output node fails only of values that are too large. -/
lemma outputSocket_failsOnly (hsetting : setting.Admits V) (hpost : setting.Welcomes Q)
    {output : Node} {socket : String} {p q : Progress σ} {x : Except Fault (Option Value)}
    (h : outputSocket setting output socket p = (x, q)) (hp : Q p.outlet)
    (hmemo : ∀ id s, (id, s) ∈ q.memo → V s.value) :
    (∀ f, x = .error f → TooLargeIn V f) ∧ ∀ v, x = .ok (some v) → V v := by
  rw [outputSocket] at h
  rcases hsource : setting.graph.source? output.id socket with _ | source
  · rw [hsource] at h
    cases h
    refine ⟨fun f hf => ?_, fun v hv => ?_⟩
    · cases hf
    · cases hv
  · simp only [hsource] at h
    rcases hs : signal setting source p with ⟨fault | s, q'⟩
    · rw [hs] at h
      cases h
      refine ⟨fun f hf => ?_, fun v hv => ?_⟩
      · cases hf
        exact (signal_failsOnly hsetting hpost hs hp hmemo).1 fault rfl
      · cases hv
    · rw [hs] at h
      cases h
      refine ⟨fun f hf => ?_, fun v hv => ?_⟩
      · cases hf
      · cases hv
        exact (signal_failsOnly hsetting hpost hs hp hmemo).2 s rfl

/-- Reading the display fails only of values that are too large. -/
lemma display_failsOnly (hsetting : setting.Admits V) (hpost : setting.Welcomes Q)
    {p q : Progress σ} {f : Fault} (h : display setting p = (.error f, q)) (hp : Q p.outlet)
    (hmemo : ∀ id s, (id, s) ∈ q.memo → V s.value) : TooLargeIn V f := by
  rcases hout : setting.graph.output? with _ | output
  · rw [display, hout] at h
    cases h
  simp only [display, hout] at h
  have hp' : Q (outputSocket setting output "in-style" p).2.outlet :=
    outputSocket_keeps (P := fun q => Q q.outlet)
      (fun _ _ => signal_welcomes hpost rfl) output "in-style" hp
  rcases hstyle : outputSocket setting output "in-style" p with ⟨fault | style, p'⟩
  · rw [hstyle] at h
    cases h
    exact (outputSocket_failsOnly hsetting hpost hstyle hp hmemo).1 f rfl
  simp only [hstyle] at h hp'
  rcases hcontent : outputSocket setting output "in-content" p' with ⟨fault | _ | v, q'⟩
  · rw [hcontent] at h
    cases h
    exact (outputSocket_failsOnly hsetting hpost hcontent hp' hmemo).1 f rfl
  · rw [hcontent] at h
    cases h
  · simp only [hcontent] at h
    obtain ⟨hx, rfl⟩ := Prod.mk.inj h
    have hv : V v := (outputSocket_failsOnly hsetting hpost hcontent hp' hmemo).2 v rfl
    rw [contentText] at hx
    rcases hdefault : orDefault v (.str "") with fault | w
    · rw [hdefault] at hx
      cases hx
      exact .of_value hv (tooLarge_of_orDefault hdefault)
    · rw [hdefault] at hx
      cases hx

/-- **A whole evaluation fails only of values that are too large.** -/
lemma run_failsOnly (hsetting : setting.Admits V) (hpost : setting.Welcomes Q)
    {p q : Progress σ} {f : Fault} (h : run setting p = (.error f, q)) (hp : Q p.outlet)
    (hmemo : ∀ id s, (id, s) ∈ q.memo → V s.value) : TooLargeIn V f := by
  have hp' : Q (visitAll setting setting.graph.actions p).2.outlet :=
    visitAll_keeps (P := fun q => Q q.outlet)
      (fun _ _ => signal_welcomes hpost rfl) setting.graph.actions hp
  rw [run] at h
  rcases hall : visitAll setting setting.graph.actions p with ⟨fault | u, p'⟩
  · rw [hall] at h
    cases h
    exact visitAll_failsOnly hsetting hpost hall hp hmemo
  · rw [hall] at h hp'
    exact display_failsOnly hsetting hpost h hp' hmemo

end Faults

end Evaluation

/-! ## Dispatchers -/

/-- Hands the event of an action of the given scope to a dispatcher, if there is one. -/
def Dispatcher.offerTo (scope : Value) (event : Event) :
    Option Dispatcher → Option Fault × Option Dispatcher
  | none => (none, none)
  | some d => ((d.emit scope event).1, some (d.emit scope event).2)

/-- Taking an event does not make a dispatcher strict. -/
lemma Dispatcher.strict_emit (d : Dispatcher) (scope : Value) (event : Event) :
    (d.emit scope event).2.strict = d.strict := by
  unfold Dispatcher.emit
  dsimp only
  split_ifs <;> rfl

namespace Evaluation

/-- Nobody and a dispatcher that is not strict refuse no action. -/
lemma welcomes_offerTo (graph : Graph) (overrides : Fields) (context : Context)
    (samples : Nat → Float) (scope : Value) :
    (Setting.mk graph overrides context samples (Dispatcher.offerTo scope)).Welcomes
      fun outlet => ∀ d ∈ outlet, d.strict = false where
  accepts origin action outlet houtlet := by
    rcases outlet with _ | d
    · rfl
    · obtain ⟨d', hemit, -⟩ := Dispatcher.emit_takes (houtlet d rfl) scope
        (Event.isSome_origin?_ofAction origin action)
      exact congrArg Prod.fst hemit
  keeps event outlet houtlet := by
    rcases outlet with _ | d
    · exact nofun
    · rintro d' ⟨⟩
      exact (d.strict_emit scope event).trans (houtlet d rfl)

/-- **Every evaluation returns or meets a number beyond the doubles**, whatever the graph, the
overrides, the samples and the trigger memory are, if the time is a number and actions go to nobody or
to a dispatcher that is not strict. In the second case the fault is that of the range, and one of the
values in play is too large. -/
theorem run_returns_or_outOfRange (graph : Graph) (overrides : Fields) (context : Context)
    (samples : Nat → Float) (scope : Value) (triggers : Fields) (drawn : Nat)
    (outlet : Option Dispatcher) (htime : isNumber context.time = true)
    (hlenient : ∀ d ∈ outlet, d.strict = false) :
    let setting := Setting.mk graph overrides context samples (Dispatcher.offerTo scope)
    let r := run setting (.start triggers drawn outlet)
    (∃ a, r.1 = .ok a) ∨
      r.1 = .error .outOfRange ∧ ∃ v, InPlay setting r.2 v ∧ IsTooLarge v := by
  intro setting r
  rcases hr : r with ⟨fault | a, q⟩
  · obtain ⟨rfl, v, hv, hlarge⟩ := run_failsOnly (admits_inPlay htime q)
      (welcomes_offerTo graph overrides context samples scope) hr hlenient
      fun _ _ => .computed
    exact .inr ⟨rfl, v, hv, hlarge⟩
  · exact .inl ⟨a, rfl⟩

/-! ## An overload -/

/-- A graph that displays the sum of a number beyond the doubles and nothing. -/
def overload : Graph :=
  ⟨[⟨"load", "NUMBER", [("value", .int (.ofNat (Nat.pow 10 400)))]⟩, ⟨"sum", "ADD", []⟩,
      ⟨"out", "OUTPUT", []⟩],
    [⟨"load", "sum", "in-a"⟩, ⟨"sum", "out", "in-content"⟩], .str "overload", .null⟩

/-- The overload meets a value that is too large. -/
theorem overload_outOfRange :
    let setting := Setting.mk overload [] .initial (fun _ => 0.5) (Dispatcher.offerTo .null)
    let r := run setting (.start [] 0 (some (.new [.recorder] false)))
    r.1 = .error .outOfRange ∧ ∃ v, InPlay setting r.2 v ∧ IsTooLarge v := by
  intro setting r
  have hfault : r.1 = .error .outOfRange := by decide +kernel
  rcases run_returns_or_outOfRange overload [] .initial (fun _ => 0.5) .null [] 0
    (some (.new [.recorder] false)) rfl (by simp [Dispatcher.new]) with ⟨a, hreturns⟩ | hmeets
  · cases hfault.symm.trans hreturns
  · exact hmeets

end Evaluation

end DesignGraph
