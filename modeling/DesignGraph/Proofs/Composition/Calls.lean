import DesignGraph.Proofs.Composition.Layers
import DesignGraph.Proofs.Evaluation.Footprint
/-!
# The evaluations of a composition

An element hands what is remembered of triggers from each of its graphs to the next one, under the
bare ids of nodes. So what an action finds is the value with which any node of its id, in whichever
graph, was looked at last; only if no other graph has an action of that id is it the node's own.

## Main definitions

* `DesignGraph.Evaluation.Handed` — evaluations, of any graphs, that hand on trigger memory.
* `DesignGraph.Composition.calls` — the evaluations of a composition.

## Main results

* `DesignGraph.Evaluation.Handed.recorded_eq` — what is remembered in the end was looked at last.
* `DesignGraph.Evaluation.Handed.law` — the law of actions over evaluations of many graphs.
* `DesignGraph.Evaluation.Handed.recorded_own` — an action that is alone of its id finds its own
  trigger.
* `DesignGraph.Composition.handed_calls` — a composition hands on trigger memory.
-/

set_option relaxedAutoImplicit false
set_option autoImplicit false

namespace DesignGraph

namespace Evaluation

variable {σ : Type}

/-! ## What is remembered -/

/-- What is remembered of a trigger is the value with which the node looked at it last, `last` if it
never did. -/
def Remembers (id : String) (last : Option Value) (p : Progress σ) : Prop :=
  Fields.get? p.triggers id = (looks (own id p.exchanges)).getLast?.or last

section Remembers

variable {setting : Setting σ} {path : List String} {job : Job} {p q : Progress σ}
  {r : Except Fault Signal × Progress σ} {id : String} {last : Option Value}

/-- An exchange that is no look at the trigger of a node changes nothing for it. -/
lemma looks_own_record {exchange : Exchange}
    (hnot : ∀ v, exchange.request = .edge v → exchange.node ≠ id) :
    looks (own id (record exchange p).exchanges) = looks (own id p.exchanges) := by
  obtain ⟨node, request, answer⟩ := exchange
  by_cases hid : node = id
  · subst hid
    rw [own_record_self, looks, List.filterMap_append, ← looks]
    cases request with
    | edge v => exact absurd rfl (hnot v rfl)
    | _ => exact List.append_nil _
  · simp [own, record, hid]

/-- A local request keeps in step what is remembered and what was looked at. -/
lemma Remembers.met {node : Node} {request : Request} {a : request.Answer}
    (h : Remembers id last p) (hl : IsLocal setting.graph node request)
    (hm : ∀ read, meet setting node read request p = (.ok a, q)) :
    Remembers id last (record ⟨node.id, request, a⟩ q) := by
  have hexchanges := (meet_keeps hl hm).2.2
  by_cases hlook : ∃ v, request = .edge v ∧ node.id = id
  · obtain ⟨v, rfl, rfl⟩ := hlook
    obtain rfl := eq_effect_of_meet hl hm
    rw [Remembers, own_record_self, looks, List.filterMap_append]
    simp [record, effect, Fields.get?_put]
  · have hnot : ∀ v, request = .edge v → node.id ≠ id := fun v hv hid => hlook ⟨v, hv, hid⟩
    rw [Remembers, looks_own_record hnot, hexchanges]
    exact (meet_spares hl hm hnot).trans h

/-- **What is remembered was looked at last**, all along an evaluation. -/
lemma Runs.remembers (h : Runs setting path job p r) (hp : Remembers id last p) :
    Remembers id last r.2 := by
  induction h with
  | overridden | recalled | cut | absent | done | fail => exact hp
  | entered _ _ _ _ _ ih => exact ih hp
  | failed _ _ _ _ _ ih => exact ih hp
  | wired _ _ _ ihv ih =>
    refine ih ?_
    rw [Remembers, looks_own_record (by simp)]
    exact ihv hp
  | broken _ _ ihv => exact ihv hp
  | met hl hm _ ih => exact ih (hp.met hl hm)
  | @refused _ node request _ _ _ _ hl hm =>
    have hnot : ∀ v, request = .edge v → node.id ≠ id := by
      rintro v rfl
      cases hm fun id p => (.ok ⟨.null, id⟩, p)
    rw [Remembers, (meet_keeps hl hm).2.2]
    exact (meet_spares hl hm hnot).trans hp

/-- After a whole evaluation, what is remembered was looked at last. -/
lemma run_remembers (setting : Setting σ) (triggers : Fields) (drawn : Nat) (outlet : σ)
    (id : String) :
    Remembers id (Fields.get? triggers id) (run setting (.start triggers drawn outlet)).2 :=
  run_keeps (P := Remembers id (Fields.get? triggers id))
    (fun other p hp => (signal_runs setting other p).remembers hp) rfl

/-- Only actions look at triggers. -/
lemma looks_own_eq_nil (setting : Setting σ) (triggers : Fields) (drawn : Nat) (outlet : σ)
    {id : String} (hid : ∀ node, setting.graph.node? id = some node → node.isAction = false) :
    looks (own id (run setting (.start triggers drawn outlet)).2.exchanges) = [] := by
  rw [looks, List.filterMap_eq_nil_iff]
  rintro ⟨node, request, answer⟩ hown
  obtain ⟨hmem, hnode⟩ := List.mem_filter.1 hown
  obtain rfl : node = id := by simpa using hnode
  obtain ⟨-, owner, kind, howner, hkind, hask⟩ :=
    run_madeByNode setting triggers drawn outlet _ hmem
  cases request with
  | edge v =>
    have hnot := hid owner howner
    rw [Node.isAction, hkind] at hnot
    exact absurd (show kind.isAction = true from hask) (by simpa using hnot)
  | _ => rfl

end Remembers

/-! ## Handing on -/

/-- Evaluations that return, each of which starts with what the one before it remembered of
triggers: from the first fields to the last ones. Everything else may change from one to the next,
the graph included. -/
inductive Handed : Fields → List (Call σ) → Fields → Prop
  | nil {triggers} : Handed triggers [] triggers
  | cons {call calls final}
    (hrun : run call.setting (.start call.before call.drawn call.outlet) =
      (.ok call.appearance, call.final))
    (h : Handed call.final.triggers calls final) : Handed call.before (call :: calls) final

section Handed

variable {start middle final : Fields} {earlier later : List (Call σ)}

lemma Handed.append (h : Handed start earlier middle) (h' : Handed middle later final) :
    Handed start (earlier ++ later) final := by
  induction h with
  | nil => exact h'
  | cons hrun _ ih => exact .cons hrun (ih h')

lemma recorded_append (id : String) (last : Option Value) (earlier later : List (Call σ)) :
    recorded id last (earlier ++ later) = recorded id (recorded id last earlier) later :=
  List.foldl_append

/-- **What is remembered in the end was looked at last**, in whichever graph. -/
theorem Handed.recorded_eq {calls : List (Call σ)} (h : Handed start calls final) (id : String) :
    Fields.get? final id = recorded id (Fields.get? start id) calls := by
  induction h with
  | nil => rfl
  | @cons call calls final hrun _ ih =>
    have hremembers := run_remembers call.setting call.before call.drawn call.outlet id
    rw [hrun] at hremembers
    rw [ih, show Fields.get? call.final.triggers id = _ from hremembers]
    rfl

/-- A row of evaluations can be cut anywhere. -/
lemma Handed.split (h : Handed start (earlier ++ later) final) :
    ∃ middle, Handed start earlier middle ∧ Handed middle later final := by
  induction earlier generalizing start with
  | nil => exact ⟨start, .nil, h⟩
  | cons call rest ih =>
    obtain _ | ⟨hrun, hrest⟩ := h
    obtain ⟨middle, hearlier, hlater⟩ := ih hrest
    exact ⟨middle, .cons hrun hearlier, hlater⟩

/-- **The law of actions over evaluations of many graphs**: an action finds what was looked at last
under its id, in whichever graph, and obeys the law of its own evaluation. -/
theorem Handed.law {call : Call σ} (h : Handed start (earlier ++ call :: later) final) :
    (∀ id, Fields.get? call.before id = recorded id (Fields.get? start id) earlier) ∧
    (∀ node, call.setting.graph.node? node.id = some node → node.isAction = true →
      Lawful call.setting.graph node call) ∧
    Delivered call.setting call.outlet call.final := by
  obtain ⟨middle, hearlier, hrest⟩ := h.split
  obtain _ | ⟨hrun, -⟩ := hrest
  exact ⟨hearlier.recorded_eq, fun node hn hact => lawful_of_run hrun hn hact, run_delivers hrun⟩

/-- Evaluations of graphs without an action of that id leave what is remembered under it. -/
lemma Handed.recorded_of_not_action {calls : List (Call σ)} (h : Handed start calls final)
    {id : String} (hid : ∀ call ∈ calls, ∀ node, call.setting.graph.node? id = some node →
      node.isAction = false) (last : Option Value) : recorded id last calls = last := by
  induction h with
  | nil => rfl
  | @cons call calls final hrun _ ih =>
    have hsilent := looks_own_eq_nil call.setting call.before call.drawn call.outlet
      (hid call List.mem_cons_self)
    rw [hrun] at hsilent
    have hrest := ih fun other hother => hid other (List.mem_cons_of_mem _ hother)
    rw [recorded, List.foldl_cons, show looks (own id call.final.exchanges) = [] from hsilent]
    exact hrest

/-- Among evaluations of graphs without an action of that id, one evaluation of a graph with such an
action leaves the value on its trigger. -/
lemma Handed.recorded_own {call : Call σ} {node : Node}
    (h : Handed start (earlier ++ call :: later) final)
    (hn : call.setting.graph.node? node.id = some node) (hact : node.isAction = true)
    (ho : Fields.get? call.setting.overrides node.id = none)
    (hid : ∀ other ∈ earlier ++ later, ∀ node', other.setting.graph.node? node.id = some node' →
      node'.isAction = false) (last : Option Value) :
    recorded node.id last (earlier ++ call :: later) =
      (seen "in-trigger" (own node.id call.final.exchanges)).head? := by
  obtain ⟨middle, hearlier, hrest⟩ := h.split
  obtain _ | ⟨hrun, hlater⟩ := hrest
  obtain ⟨v, hv⟩ := (lawful_of_run hrun hn hact).2 ho
  have hcall (last : Option Value) : recorded node.id last [call] = some v := by
    rw [recorded, List.foldl_cons, hv.looks]
    rfl
  rw [← List.singleton_append, recorded_append, recorded_append, hcall, hv.reads]
  exact hlater.recorded_of_not_action
    (fun other hother => hid other (List.mem_append_right _ hother)) (some v)

end Handed

end Evaluation

namespace Composition

variable {σ : Type} {setting : Setting σ} {p q : Progress σ}

/-- The evaluations of a composition, up to the first fault. -/
def calls (setting : Setting σ) : List Graph → Progress σ → List (Evaluation.Call σ)
  | [], _ => []
  | graph :: rest, p =>
    match Evaluation.run (setting.forGraph graph) (setting.start p) with
    | (.ok appearance, q) =>
      ⟨setting.forGraph graph, (setting.start p).triggers, p.drawn, p.outlet, appearance, q⟩ ::
        calls setting rest (.after q)
    | (.error _, _) => []

/-- Every evaluation of a composition has returned. -/
lemma run_of_mem_calls {graphs : List Graph} {call : Evaluation.Call σ}
    (h : call ∈ calls setting graphs p) :
    Evaluation.run call.setting (.start call.before call.drawn call.outlet) =
      (.ok call.appearance, call.final) := by
  induction graphs generalizing p with
  | nil => cases h
  | cons graph rest ih =>
    rw [calls] at h
    rcases hrun : Evaluation.run (setting.forGraph graph) (setting.start p) with ⟨_ | a, q⟩
    · rw [hrun] at h
      cases h
    · rw [hrun] at h
      rcases List.mem_cons.1 h with rfl | h
      · exact hrun
      · exact ih h

/-- **A composition evaluates its graphs in order and hands on trigger memory.** -/
theorem handed_calls {graphs : List Graph} {below computed : Appearance}
    (hremembers : setting.remembers = true)
    (h : evaluateAll setting graphs below p = (.ok computed, q)) :
    (calls setting graphs p).map (·.setting) = graphs.map setting.forGraph ∧
      Evaluation.Handed p.triggers (calls setting graphs p) q.triggers := by
  induction graphs generalizing below p with
  | nil =>
    cases h
    exact ⟨rfl, .nil⟩
  | cons graph rest ih =>
    have hstart : (setting.start p).triggers = p.triggers := by
      rw [Setting.start, hremembers]
      rfl
    rw [evaluateAll] at h
    rw [calls]
    rcases hrun : Evaluation.run (setting.forGraph graph) (setting.start p) with ⟨_ | a, q'⟩
    · rw [hrun] at h
      cases h
    · rw [hrun] at h
      obtain ⟨hsettings, hhanded⟩ := ih h
      let call : Evaluation.Call σ :=
        ⟨setting.forGraph graph, (setting.start p).triggers, p.drawn, p.outlet, a, q'⟩
      have hcons : Evaluation.Handed call.before (call :: calls setting rest (.after q'))
          q.triggers := .cons hrun hhanded
      refine ⟨congrArg (_ :: ·) hsettings, ?_⟩
      rw [← hstart]
      exact hcons

/-- A composition that returns has evaluated the graphs of its element in order, and hands on what
it was handed of triggers. -/
lemma handed_of_compose {c : Composition} (hremembers : setting.remembers = true)
    (h : compose setting p = (.ok c, q)) :
    ∃ graphs, setting.element.graphs setting.project = .ok graphs ∧
      (calls setting graphs p).map (·.setting) = graphs.map setting.forGraph ∧
      Evaluation.Handed p.triggers (calls setting graphs p) q.triggers := by
  obtain ⟨graphs, computed, hgraphs, hall, -⟩ := evaluateAll_of_compose h
  exact ⟨graphs, hgraphs, handed_calls hremembers hall⟩

end Composition

end DesignGraph
