import DesignGraph.Proofs.Evaluation.Footprint
import Mathlib.Logic.Relation
/-!
# Evaluation, step by step

`Evaluation.value` follows the wires of a graph by recursion and passes the running programs down
as a path. This module lays the recursion open: a machine with a stack of waiting programs and one
set of running ids, which an id joins when its program is dispatched and leaves when the program
ends, with a result or with a fault. No depth bounds the machine. It nevertheless halts on every
graph, with what the recursion computes, and it hands every nested request back with the set of
running ids just as the request found it.

## Main definitions

* `DesignGraph.Evaluation.Machine` — a machine: a task, the waiting programs, the running ids and
  the progress made.
* `DesignGraph.Evaluation.step` — one step of the machine.
* `DesignGraph.Evaluation.Leads` — one machine comes to another in some number of steps.
* `DesignGraph.Evaluation.Machine.Tidy` — the running ids are those of the programs under way.

## Main results

* `DesignGraph.Evaluation.Runs.leads` — the machine follows the rules of an evaluation.
* `DesignGraph.Evaluation.step_tidy` — every step keeps a machine tidy.
* `DesignGraph.Evaluation.machine_halts` — the machine halts with the result of the recursion.
* `DesignGraph.Evaluation.call_returns` — every request inside of it is answered in the same way.
-/

set_option relaxedAutoImplicit false
set_option autoImplicit false

namespace DesignGraph

namespace Evaluation

open Relation

variable {σ : Type}

/-! ## The machine -/

/-- A program that waits for the signal on one of its sockets. -/
structure Caller where
  node : Node
  socket : String
  next : Signal → Program Outcome

/-- What a machine does next. -/
inductive Task where
  /-- It asks for the value of a node. -/
  | call (id : String)
  /-- It goes on with the program of a node. -/
  | go (node : Node) (program : Program Outcome)
  /-- It answers the innermost caller, with a signal or a fault. -/
  | answer (result : Except Fault Signal)

/-- A machine: its task, the programs that wait, innermost first, the ids whose programs are
running, and the progress made. -/
structure Machine (σ : Type) where
  task : Task
  callers : List Caller
  running : List String
  progress : Progress σ

namespace Machine

/-- A machine that is about to ask for a node, from outside. -/
def start (id : String) (p : Progress σ) : Machine σ :=
  ⟨.call id, [], [], p⟩

/-- The ids of the programs under way, innermost first. -/
def inside (m : Machine σ) : List String :=
  (match m.task with
    | .go node _ => [node.id]
    | _ => []) ++ m.callers.map (·.node.id)

/-- The program of `id` has ended: the id leaves the running ones. -/
def leave (id : String) (m : Machine σ) : Machine σ :=
  { m with running := m.running.filter (· != id) }

/-- The answer to a request that was met at once. -/
def met (id : String) (result : Except Fault Signal) (answer : Answer) (m : Machine σ) :
    Machine σ :=
  { m with task := .answer result, progress := note id m.running answer m.progress }

/-- A request for the value of a node. -/
def call (setting : Setting σ) (id : String) (m : Machine σ) : Machine σ :=
  match Fields.get? setting.overrides id with
  | some v => m.met id (.ok ⟨v, id⟩) .overridden
  | none =>
    match m.progress.memo.lookup id with
    | some s => m.met id (.ok s) .recalled
    | none =>
      if m.running.contains id then m.met id (.ok ⟨.null, id⟩) .cut
      else
        match setting.graph.node? id with
        | none => m.met id (.ok ⟨.null, id⟩) .absent
        | some node =>
          { m with
            task := .go node node.program, running := id :: m.running
            progress := note id m.running .entered m.progress }

/-- A request that looks at no other node is met in place. -/
def proceed (setting : Setting σ) (node : Node) (request : Request)
    (next : request.Answer → Program Outcome) (m : Machine σ) : Machine σ :=
  match meet setting node (fun id p => (.ok ⟨.null, id⟩, p)) request m.progress with
  | (.ok a, p) => { m with task := .go node (next a), progress := record ⟨node.id, request, a⟩ p }
  | (.error fault, p) => { m.leave node.id with task := .answer (.error fault), progress := p }

/-- A program goes on: its result is remembered, and a wired socket that it reads makes it wait. -/
def go (setting : Setting σ) (node : Node) : Program Outcome → Machine σ → Machine σ
  | .done outcome, m =>
    let signal := outcome.signal node.id
    { m.leave node.id with
      task := .answer (.ok signal)
      progress := { m.progress with memo := m.progress.memo ++ [(node.id, signal)] } }
  | .fail fault, m => { m.leave node.id with task := .answer (.error fault) }
  | .ask (.read socket) next, m =>
    match setting.graph.source? node.id socket with
    | some source => { m with task := .call source, callers := ⟨node, socket, next⟩ :: m.callers }
    | none => m.proceed setting node (.read socket) next
  | .ask request next, m => m.proceed setting node request next

end Machine

/-- One step of a machine; there is none once the request from outside has been answered. -/
def step (setting : Setting σ) (m : Machine σ) : Option (Machine σ) :=
  match m.task with
  | .call id => some (m.call setting id)
  | .go node program => some (m.go setting node program)
  | .answer result =>
    match m.callers, result with
    | [], _ => none
    | ⟨node, socket, next⟩ :: callers, .ok s =>
      some { m with
        task := .go node (next s), callers
        progress := record ⟨node.id, .read socket, s⟩ m.progress }
    | ⟨node, _, _⟩ :: callers, .error _ => some { m.leave node.id with callers }

/-- A machine comes to another in some number of steps. -/
def Leads (setting : Setting σ) : Machine σ → Machine σ → Prop :=
  ReflTransGen fun m m' => step setting m = some m'

section Steps

variable {setting : Setting σ} {m m' m'' : Machine σ}

lemma Leads.refl (m : Machine σ) : Leads setting m m :=
  ReflTransGen.refl

lemma Leads.trans (h : Leads setting m m') (h' : Leads setting m' m'') : Leads setting m m'' :=
  ReflTransGen.trans h h'

/-- A first step, then more. -/
lemma Leads.head (h : step setting m = some m') (h' : Leads setting m' m'') :
    Leads setting m m'' :=
  ReflTransGen.head h h'

/-- A machine that comes to an end takes no infinite row of steps. -/
lemma Leads.acc (h : Leads setting m m') (hhalt : step setting m' = none) :
    Acc (fun after before => step setting before = some after) m := by
  induction h using ReflTransGen.head_induction_on with
  | refl =>
    refine ⟨_, fun next hnext => ?_⟩
    cases hhalt.symm.trans hnext
  | head hstep _ ih =>
    refine ⟨_, fun next hnext => ?_⟩
    cases hstep.symm.trans hnext
    exact ih

/-- What every step keeps, any number of steps keeps. -/
lemma Leads.keeps {P : Machine σ → Prop} (hstep : ∀ m m', step setting m = some m' → P m → P m')
    (h : Leads setting m m') (hm : P m) : P m' := by
  induction h with
  | refl => exact hm
  | tail _ hlast ih => exact hstep _ _ hlast ih

end Steps

/-! ## The machine follows the rules -/

/-- What a program that has ended leaves behind: a result is remembered. -/
def kept (id : String) (r : Except Fault Signal × Progress σ) : Progress σ :=
  match r.1 with
  | .ok s => { r.2 with memo := r.2.memo ++ [(id, s)] }
  | .error _ => r.2

/-- An id leaves the running ones, which it had joined last. -/
lemma filter_head {id : String} {running : List String} (h : id ∉ running) :
    (id :: running).filter (· != id) = running := by
  have hrest : running.filter (· != id) = running := by
    refine List.filter_eq_self.2 fun x hx => ?_
    have hne : x ≠ id := by
      rintro rfl
      exact h hx
    simpa using hne
  simpa using hrest

/-- A local request makes no program wait. -/
lemma go_of_isLocal {setting : Setting σ} {node : Node} {request : Request}
    (hl : IsLocal setting.graph node request) (next : request.Answer → Program Outcome)
    (m : Machine σ) : m.go setting node (.ask request next) = m.proceed setting node request next := by
  cases request with
  | read socket => simp only [Machine.go, hl socket rfl]
  | _ => rfl

/-- A program that asks is met in place, or it waits for another node. -/
lemma go_ask_cases (setting : Setting σ) (node : Node) (request : Request)
    (next : request.Answer → Program Outcome) (m : Machine σ) :
    IsLocal setting.graph node request ∧
        m.go setting node (.ask request next) = m.proceed setting node request next ∨
      ∃ source caller, caller.node = node ∧ m.go setting node (.ask request next) =
        { m with task := .call source, callers := caller :: m.callers } := by
  rcases isLocal_or_reads setting.graph node request with hl | ⟨socket, source, rfl, hs⟩
  · exact .inl ⟨hl, go_of_isLocal hl next m⟩
  · exact .inr ⟨source, ⟨node, socket, next⟩, rfl, by simp only [Machine.go, hs]⟩

/-- What is left to do for a job with the running programs `path`: how the machine comes from the
job to its answer, whoever waits. A program leaves the running ones in the end. -/
def Served (setting : Setting σ) (path : List String) (p : Progress σ)
    (r : Except Fault Signal × Progress σ) : Job → Prop
  | .value id => ∀ callers,
    Leads setting ⟨.call id, callers, path, p⟩ ⟨.answer r.1, callers, path, r.2⟩
  | .rest node program => ∀ callers outer, path = node.id :: outer → node.id ∉ outer →
    Leads setting ⟨.go node program, callers, path, p⟩
      ⟨.answer r.1, callers, outer, kept node.id r⟩

/-- **The machine follows the rules of an evaluation**, and when it answers, the running ids are
those at the request.

**Proof sketch.** Induction on the rules. A program that is entered joins the running ids, was not
among them before, and so leaves them as they were when it ends. -/
theorem Runs.leads {setting : Setting σ} {path : List String} {job : Job} {p : Progress σ}
    {r : Except Fault Signal × Progress σ} (h : Runs setting path job p r) :
    Served setting path p r job := by
  induction h with
  | overridden hv =>
    intro callers
    refine .head ?_ (.refl _)
    simp only [step, Machine.call, hv, Machine.met]
  | recalled ho hs =>
    intro callers
    refine .head ?_ (.refl _)
    simp only [step, Machine.call, ho, hs, Machine.met]
  | cut ho hm hp =>
    intro callers
    refine .head ?_ (.refl _)
    simp only [step, Machine.call, ho, hm, List.contains_iff_mem.2 hp, if_true, Machine.met]
  | absent ho hm hp hn =>
    intro callers
    refine .head ?_ (.refl _)
    simp [step, Machine.call, ho, hm, hp, hn, Machine.met]
  | @entered path id p node s q ho hm hp hn h ih =>
    intro callers
    obtain rfl := Graph.id_of_node? hn
    refine .head ?_ (ih callers path rfl hp)
    simp [step, Machine.call, ho, hm, hp, hn]
  | @failed path id p node f q ho hm hp hn h ih =>
    intro callers
    obtain rfl := Graph.id_of_node? hn
    refine .head ?_ (ih callers path rfl hp)
    simp [step, Machine.call, ho, hm, hp, hn]
  | done =>
    rintro callers outer rfl hout
    refine .head ?_ (.refl _)
    simp only [step, Machine.go, Machine.leave, filter_head hout, kept]
  | fail =>
    rintro callers outer rfl hout
    refine .head ?_ (.refl _)
    simp only [step, Machine.go, Machine.leave, filter_head hout, kept]
  | @wired path node socket next p source s q r hs hv h ihv ih =>
    rintro callers outer rfl hout
    refine .head ?_ ((ihv (⟨node, socket, next⟩ :: callers)).trans
      (.head ?_ (ih callers outer rfl hout)))
    · simp only [step, Machine.go, hs]
    · simp only [step]
  | @broken path node socket next p source f q hs hv ihv =>
    rintro callers outer rfl hout
    refine .head ?_ ((ihv (⟨node, socket, next⟩ :: callers)).trans (.head ?_ (.refl _)))
    · simp only [step, Machine.go, hs]
    · simp only [step, Machine.leave, filter_head hout, kept]
  | @met path node request next p a q r hl hm h ih =>
    rintro callers outer rfl hout
    refine .head ?_ (ih callers outer rfl hout)
    simp only [step, go_of_isLocal hl, Machine.proceed, hm]
  | @refused path node request next p f q hl hm =>
    rintro callers outer rfl hout
    refine .head ?_ (.refl _)
    simp only [step, go_of_isLocal hl, Machine.proceed, hm, Machine.leave, filter_head hout, kept]

/-! ## Running ids -/

/-- The programs under way belong to distinct nodes of the graph, and the running ids are theirs.
-/
structure Machine.Tidy (graph : Graph) (m : Machine σ) : Prop where
  running : m.running = m.inside
  nodup : m.running.Nodup
  exist : ∀ id ∈ m.running, (graph.node? id).isSome

section Tidy

variable {setting : Setting σ} {m m' : Machine σ}

/-- Nothing is under way before a request from outside. -/
lemma tidy_start (graph : Graph) (id : String) (p : Progress σ) :
    (Machine.start id p).Tidy graph :=
  ⟨rfl, List.nodup_nil, by simp [Machine.start]⟩

/-- A machine whose programs under way are as before is as tidy. -/
lemma Machine.Tidy.congr {graph : Graph} (h : m.Tidy graph) (hrunning : m'.running = m.running)
    (hinside : m'.inside = m.inside) : m'.Tidy graph :=
  ⟨hrunning.trans (h.running.trans hinside.symm), hrunning ▸ h.nodup, hrunning ▸ h.exist⟩

/-- When the innermost program ends, the others are still under way. -/
lemma Machine.Tidy.leave {graph : Graph} {id : String} (h : m.Tidy graph)
    (hinside : m.inside = id :: m'.inside) (hrunning : m'.running = (m.leave id).running) :
    m'.Tidy graph := by
  have hall : m.running = id :: m'.inside := h.running.trans hinside
  have hnodup := h.nodup
  rw [hall, List.nodup_cons] at hnodup
  have hrest : m'.running = m'.inside := by
    rw [hrunning, Machine.leave, hall]
    exact filter_head hnodup.1
  refine ⟨hrest, hrest ▸ hnodup.2, fun x hx => h.exist x ?_⟩
  rw [hall]
  exact List.mem_cons_of_mem _ (hrest ▸ hx)

/-- A request keeps a machine tidy: only the program of a node of the graph that is not running is
dispatched. -/
lemma Machine.Tidy.call {id : String} (h : m.Tidy setting.graph) (htask : m.task = .call id) :
    (m.call setting id).Tidy setting.graph := by
  have hinside : m.inside = m.callers.map (·.node.id) := by
    simp only [Machine.inside, htask, List.nil_append]
  have hmet : ∀ result answer, (m.met id result answer).Tidy setting.graph := by
    intro result answer
    exact h.congr rfl hinside.symm
  unfold Machine.call
  split
  · exact hmet _ _
  split
  · exact hmet _ _
  split
  · exact hmet _ _
  rename_i hrunning
  split
  · exact hmet _ _
  · rename_i node hn
    refine ⟨?_, List.nodup_cons.2 ⟨by simpa using hrunning, h.nodup⟩, ?_⟩
    · have hjoined := h.running.trans hinside
      simp only [hjoined, Machine.inside, Graph.id_of_node? hn, List.singleton_append]
    · simpa [hn] using h.exist

/-- A program that goes on keeps a machine tidy. -/
lemma Machine.Tidy.go {node : Node} {program : Program Outcome} (h : m.Tidy setting.graph)
    (htask : m.task = .go node program) : (m.go setting node program).Tidy setting.graph := by
  have hinside : m.inside = node.id :: m.callers.map (·.node.id) := by
    simp only [Machine.inside, htask, List.singleton_append]
  have hproceed : ∀ request next, (m.proceed setting node request next).Tidy setting.graph := by
    intro request next
    unfold Machine.proceed
    split
    · exact h.congr rfl hinside.symm
    · exact h.leave hinside rfl
  cases program with
  | done outcome => exact h.leave hinside rfl
  | fail fault => exact h.leave hinside rfl
  | ask request next =>
    rcases go_ask_cases setting node request next m with ⟨-, heq⟩ | ⟨source, caller, rfl, heq⟩
    · rw [heq]
      exact hproceed request next
    · rw [heq]
      exact h.congr rfl hinside.symm

/-- **Every step keeps a machine tidy.** -/
theorem step_tidy (hstep : step setting m = some m') (h : m.Tidy setting.graph) :
    m'.Tidy setting.graph := by
  unfold step at hstep
  split at hstep
  · rename_i htask
    cases hstep
    exact h.call htask
  · rename_i htask
    cases hstep
    exact h.go htask
  · rename_i htask
    split at hstep
    · cases hstep
    · rename_i hcallers
      cases hstep
      exact h.congr rfl (by simp [Machine.inside, htask, hcallers])
    · rename_i hcallers
      cases hstep
      exact h.leave (by simp [Machine.inside, Machine.leave, htask, hcallers]) rfl

/-- No more programs are under way than the graph has ids. -/
lemma Machine.Tidy.length_le {graph : Graph} (h : m.Tidy graph) :
    m.running.length ≤ (graph.nodes.map (·.id)).dedup.length :=
  length_le_dedup h.nodup h.exist

end Tidy

/-! ## Halting -/

section Halting

variable (setting : Setting σ)

/-- **The machine halts with what the recursion computes**, on every graph, and with nothing
running. -/
theorem machine_halts (id : String) (p : Progress σ) :
    Leads setting (.start id p)
      ⟨.answer (signal setting id p).1, [], [], (signal setting id p).2⟩ :=
  (signal_runs setting id p).leads []

/-- **Every request inside of it is answered**, with a signal or a fault, as the recursion answers
it, with the running ids as they were. -/
theorem call_returns {m : Machine σ} (h : m.Tidy setting.graph) {id : String}
    (htask : m.task = .call id) :
    let r := value setting (depthOf setting.graph) m.running id m.progress
    Leads setting m ⟨.answer r.1, m.callers, m.running, r.2⟩ := by
  obtain ⟨task, callers, running, progress⟩ := m
  cases htask
  have hdepth : setting.graph.nodes.length < depthOf setting.graph + running.length := by
    simp only [depthOf]
    omega
  exact (value_runs setting _ running id progress h.nodup h.exist hdepth).leads callers

end Halting

/-! ## Memory -/

/-- No step changes or removes what is remembered. -/
lemma step_memo {setting : Setting σ} {m m' : Machine σ} (h : step setting m = some m') :
    m.progress.memo <+: m'.progress.memo := by
  have hproceed : ∀ (node : Node) (request : Request) (next : request.Answer → Program Outcome),
      IsLocal setting.graph node request →
        m.progress.memo <+: (m.proceed setting node request next).progress.memo := by
    intro node request next hl
    have hkeeps {x : Except Fault request.Answer} {q : Progress σ}
        (hq : meet setting node (fun id p => (.ok ⟨.null, id⟩, p)) request m.progress = (x, q)) :
        q.memo = m.progress.memo :=
      (meet_keeps hl fun read => (meet_of_isLocal hl read _ _).trans hq).1
    unfold Machine.proceed
    split
    · rename_i hq
      simp only [record, hkeeps hq, List.prefix_refl]
    · rename_i hq
      simp only [hkeeps hq, List.prefix_refl]
  unfold step at h
  split at h
  · cases h
    unfold Machine.call
    repeat' split
    all_goals exact List.prefix_refl _
  · rename_i node program htask
    cases h
    cases program with
    | done outcome => exact List.prefix_append _ _
    | fail fault => exact List.prefix_refl _
    | ask request next =>
      rcases go_ask_cases setting node request next m with ⟨hl, heq⟩ | ⟨source, caller, -, heq⟩
      · rw [heq]
        exact hproceed node request next hl
      · simp only [heq, List.prefix_refl]
  · split at h
    · cases h
    · cases h
      exact List.prefix_refl _
    · cases h
      exact List.prefix_refl _

/-- What is remembered stays as it is. -/
theorem Leads.memo {setting : Setting σ} {m m' : Machine σ} (h : Leads setting m m') :
    m.progress.memo <+: m'.progress.memo :=
  h.keeps (P := fun m' => m.progress.memo <+: m'.progress.memo)
    (fun _ _ hstep hm => hm.trans (step_memo hstep)) (List.prefix_refl _)

end Evaluation

end DesignGraph
