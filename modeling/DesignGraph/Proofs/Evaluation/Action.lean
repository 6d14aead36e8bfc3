import DesignGraph.Proofs.Evaluation.Dialogue
/-!
# Actions over many evaluations

Evaluations of one graph that hand on what they remember of triggers. In each of them an action
that is not overridden looks at its trigger exactly once, whichever way it is reached, and fires
exactly if the trigger has risen since it was last looked at and there is something to fire. An
overridden action neither looks nor fires, and nothing is ever remembered under other ids.

## Main definitions

* `DesignGraph.Evaluation.seen`, `DesignGraph.Evaluation.looks`, `DesignGraph.Evaluation.events` —
  what exchanges read, compare and fire.
* `DesignGraph.Evaluation.ActsOnRise` — the law of an action in one evaluation.
* `DesignGraph.Evaluation.Delivered` — events have gone where the evaluation sends them.
* `DesignGraph.Evaluation.Calls` — evaluations that share what they remember of triggers.
* `DesignGraph.Evaluation.recorded` — the trigger value that an action looked at last.

## Main results

* `DesignGraph.Evaluation.Dialogue.actsOnRise` — the program of every action obeys the law.
* `DesignGraph.Evaluation.actions_fire_on_rising_edges` — the law over all evaluations.
-/

set_option relaxedAutoImplicit false
set_option autoImplicit false

namespace DesignGraph

namespace Evaluation

variable {σ : Type}

/-- The values that were read on a socket. -/
def seen (socket : String) (exchanges : List Exchange) : List Value :=
  exchanges.filterMap fun
    | ⟨_, .read read, answer⟩ => if read = socket then some answer.value else none
    | _ => none

/-- The values with which triggers were looked at. -/
def looks (exchanges : List Exchange) : List Value :=
  exchanges.filterMap fun
    | ⟨_, .edge v, _⟩ => some v
    | _ => none

/-- The events of the actions that were fired. -/
def events (graph : Graph) (exchanges : List Exchange) : List Event :=
  exchanges.filterMap fun
    | ⟨node, .fire action, _⟩ => some (Event.ofAction ⟨.str node, graph.id, .null⟩ action)
    | _ => none

/-- What an action has to fire with: the literal of its node, where a link and an alert prefer what
they read. -/
def payload (node : Node) (exchanges : List Exchange) : Except Fault Value :=
  match node.kind? with
  | some .link => Coercion.orDefault ((seen "in-url" exchanges).headD .null) node.literal
  | some .alert => Coercion.orDefault ((seen "in-message" exchanges).headD .null) node.literal
  | _ => .ok node.literal

/-- **The law of an action** in one evaluation with the given exchanges of its node: the value `v`
on its trigger is looked at once and remembered, and there is an event, and then only one, exactly
if `v` is true, the value remembered before is not, and the payload counts as true. -/
structure ActsOnRise (graph : Graph) (node : Node) (before after : Option Value)
    (exchanges : List Exchange) (v : Value) : Prop where
  reads : seen "in-trigger" exchanges = [v]
  looks : looks exchanges = [v]
  remembers : after = some v
  once : (events graph exchanges).length ≤ 1
  fires : events graph exchanges ≠ [] ↔ v = .bool true ∧ before ≠ some (.bool true) ∧
    payload node exchanges >>= Coercion.truthy = .ok true

/-! ## Looks -/

section Looks

variable {id : String} {reads : List Exchange} {trigger : Value} {rises : Bool}
  {actions : List Action}

/-- One look at a trigger and the actions that are fired after it, as exchanges. -/
def looking (id : String) (trigger : Value) (rises : Bool) (actions : List Action) :
    List Exchange :=
  ⟨id, .edge trigger, rises⟩ :: actions.map fun action => ⟨id, .fire action, ()⟩

/-- A look reads nothing. -/
lemma seen_append_looking (socket : String) :
    seen socket (reads ++ looking id trigger rises actions) = seen socket reads := by
  simp [seen, looking, List.filterMap_map]

lemma looks_append_looking :
    looks (reads ++ looking id trigger rises actions) = looks reads ++ [trigger] := by
  simp [looks, looking, List.filterMap_map]

lemma events_append_looking (graph : Graph) :
    events graph (reads ++ looking id trigger rises actions) =
      events graph reads ++ actions.map (Event.ofAction ⟨.str id, graph.id, .null⟩) := by
  simp [events, looking, List.filterMap_map]

/-- A look comes after all that bears on the payload. -/
lemma payload_append_looking (node : Node) :
    payload node (reads ++ looking id trigger rises actions) = payload node reads := by
  simp only [payload, seen_append_looking]

/-- A trigger rises exactly from anything but true to true. -/
lemma rises_iff {last : Option Value} {v : Value} :
    Trigger.rises last v = true ↔ v = .bool true ∧ last ≠ some (.bool true) := by
  simp [Trigger.rises]

/-- Reads followed by one look, which fires at most once, obey the law. -/
lemma actsOnRise_append_looking {graph : Graph} {node : Node} {last : Option Value}
    {filled : Value} (hseen : seen "in-trigger" reads = [trigger]) (hlooks : looks reads = [])
    (hevents : events graph reads = []) (hpayload : payload node reads = .ok filled)
    (hlen : actions.length ≤ 1) (hiff : actions ≠ [] ↔
      Trigger.rises last trigger = true ∧ Coercion.truthy filled = .ok true) :
    ActsOnRise graph node last (some trigger)
      (reads ++ looking node.id trigger (Trigger.rises last trigger) actions) trigger where
  reads := (seen_append_looking _).trans hseen
  looks := by rw [looks_append_looking, hlooks, List.nil_append]
  remembers := rfl
  once := by
    rw [events_append_looking, hevents, List.nil_append, List.length_map]
    exact hlen
  fires := by
    rw [events_append_looking, hevents, List.nil_append, payload_append_looking, hpayload, ne_eq,
      List.map_eq_nil_iff, ← ne_eq, hiff, rises_iff, and_assoc]
    rfl

end Looks

/-! ## Programs of actions -/

section Programs

variable {id : String} {last final : Option Value} {exchanges : List Exchange}

/-- Reading a socket is one exchange. -/
lemma Dialogue.of_value {socket : String} {v : Value}
    (h : Dialogue id (Operation.value socket) last exchanges final v) :
    ∃ s : Signal, exchanges = [⟨id, .read socket, s⟩] ∧ final = last ∧ v = s.value := by
  simp only [Operation.value, Operation.signal, dialogue_bind, dialogue_pure] at h
  obtain ⟨_, _, s, _, hread, ⟨rfl, rfl, rfl⟩, rfl⟩ := h
  obtain ⟨rfl, rfl⟩ := dialogue_request.1 hread
  exact ⟨s, rfl, rfl, rfl⟩

/-- A program without requests exchanges nothing. -/
lemma Dialogue.of_silent {α : Type} {program : Program α} {a : α}
    (hprogram : program.Within (fun _ => False) fun _ => True)
    (h : Dialogue id program last exchanges final a) : exchanges = [] ∧ final = last := by
  cases h with
  | done => exact ⟨rfl, rfl⟩
  | ask => exact hprogram.1.elim

/-- What an action does with its trigger: one look, followed by firing at most once, exactly if the
trigger rises and the payload counts as true. -/
lemma Dialogue.of_fireOn {trigger payload v : Value} {action : Program Action}
    (haction : action.Within (fun _ => False) fun _ => True)
    (h : Dialogue id (Operation.fireOn trigger payload action) last exchanges final v) :
    final = some trigger ∧ ∃ actions : List Action,
      exchanges = looking id trigger (Trigger.rises last trigger) actions ∧ actions.length ≤ 1 ∧
      (actions ≠ [] ↔ Trigger.rises last trigger = true ∧ Coercion.truthy payload = .ok true) := by
  simp only [Operation.fireOn, dialogue_bind] at h
  obtain ⟨_, _, rises, _, hlook, h, rfl⟩ := h
  obtain ⟨rfl, hrises, rfl⟩ := dialogue_request.1 hlook
  rw [← hrises]
  cases rises with
  | false =>
    rw [if_neg Bool.false_ne_true] at h
    obtain ⟨rfl, rfl, -⟩ := dialogue_pure.1 h
    exact ⟨rfl, [], rfl, by simp, by simp⟩
  | true =>
    rw [if_pos rfl] at h
    obtain ⟨_, _, filled, _, hpayload, h', rfl⟩ := dialogue_bind.1 h
    obtain ⟨rfl, rfl, hfilled⟩ := dialogue_ofExcept.1 hpayload
    cases filled with
    | false =>
      rw [if_neg Bool.false_ne_true] at h'
      obtain ⟨rfl, rfl, -⟩ := dialogue_pure.1 h'
      exact ⟨rfl, [], rfl, by simp, by simp [hfilled]⟩
    | true =>
      rw [if_pos rfl] at h'
      obtain ⟨_, _, fired, _, hfired, hrest, rfl⟩ := dialogue_bind.1 h'
      obtain ⟨rfl, rfl⟩ := hfired.of_silent haction
      obtain ⟨_, _, _, _, hfire, hend, rfl⟩ := dialogue_bind.1 hrest
      obtain ⟨rfl, hturn⟩ := dialogue_request.1 hfire
      obtain ⟨rfl, rfl, -⟩ := dialogue_pure.1 hend
      exact ⟨hturn, [fired], rfl, by simp, by simp [hfilled]⟩

/-- A program that makes the value of another one has the same dialogues. -/
lemma Dialogue.of_making {program : Program Value} {o : Outcome}
    (h : Dialogue id (Operation.making program) last exchanges final o) :
    ∃ v, Dialogue id program last exchanges final v := by
  simp only [Operation.making, dialogue_bind, dialogue_pure] at h
  obtain ⟨first, _, v, _, h, ⟨rfl, rfl, -⟩, rfl⟩ := h
  exact ⟨v, by rwa [List.append_nil]⟩

/-- **The program of every action obeys the law.** -/
theorem Dialogue.actsOnRise {node : Node} {o : Outcome} (graph : Graph)
    (hact : node.isAction = true)
    (h : Dialogue node.id node.program last exchanges final o) :
    ∃ v, ActsOnRise graph node last final exchanges v := by
  obtain ⟨kind, hkind, hact⟩ : ∃ kind, node.kind? = some kind ∧ kind.isAction = true := by
    simpa [Node.isAction, Option.any_eq_true] using hact
  simp only [Node.program, hkind] at h
  cases kind with
  | navigate =>
    obtain ⟨_, hvalue⟩ := Dialogue.of_making h
    obtain ⟨_, _, trigger, _, hread, hfire, rfl⟩ := dialogue_bind.1 hvalue
    obtain ⟨s, rfl, rfl, rfl⟩ := hread.of_value
    obtain ⟨rfl, actions, rfl, hlen, hiff⟩ := hfire.of_fireOn (by simp)
    exact ⟨s.value, actsOnRise_append_looking (by simp [seen]) rfl rfl (by simp [payload, hkind])
      hlen hiff⟩
  | link =>
    obtain ⟨_, hvalue⟩ := Dialogue.of_making h
    obtain ⟨_, _, trigger, _, hread, h₁, rfl⟩ := dialogue_bind.1 hvalue
    obtain ⟨s, rfl, rfl, rfl⟩ := hread.of_value
    obtain ⟨_, _, wired, _, hwired, h₂, rfl⟩ := dialogue_bind.1 h₁
    obtain ⟨u, rfl, rfl, rfl⟩ := hwired.of_value
    obtain ⟨_, _, url, _, hor, h₃, rfl⟩ := dialogue_bind.1 h₂
    obtain ⟨rfl, rfl, hurl⟩ := dialogue_ofExcept.1 hor
    obtain ⟨_, _, tab, _, htab, hfire, rfl⟩ := dialogue_bind.1 h₃
    obtain ⟨n, rfl, rfl, rfl⟩ := htab.of_value
    obtain ⟨rfl, actions, rfl, hlen, hiff⟩ := hfire.of_fireOn (by simp)
    refine ⟨s.value, ?_⟩
    rw [List.nil_append, ← List.append_assoc, ← List.append_assoc]
    exact actsOnRise_append_looking (by simp [seen]) rfl rfl (by simpa [payload, hkind, seen])
      hlen hiff
  | alert =>
    obtain ⟨_, hvalue⟩ := Dialogue.of_making h
    obtain ⟨_, _, trigger, _, hread, h₁, rfl⟩ := dialogue_bind.1 hvalue
    obtain ⟨s, rfl, rfl, rfl⟩ := hread.of_value
    obtain ⟨_, _, wired, _, hwired, h₂, rfl⟩ := dialogue_bind.1 h₁
    obtain ⟨m, rfl, rfl, rfl⟩ := hwired.of_value
    obtain ⟨_, _, message, _, hor, hfire, rfl⟩ := dialogue_bind.1 h₂
    obtain ⟨rfl, rfl, hmessage⟩ := dialogue_ofExcept.1 hor
    obtain ⟨rfl, actions, rfl, hlen, hiff⟩ := hfire.of_fireOn (by simp)
    refine ⟨s.value, ?_⟩
    rw [List.nil_append, ← List.append_assoc]
    exact actsOnRise_append_looking (by simp [seen]) rfl rfl (by simpa [payload, hkind, seen])
      hlen hiff
  | _ => cases hact

end Programs

/-! ## Whole evaluations -/

/-- Where the events of the actions that were fired have gone: from `outlet` on, to the outlet of
the evaluation, in order. -/
def Delivered (setting : Setting σ) (outlet : σ) (p : Progress σ) : Prop :=
  p.outlet =
    (events setting.graph p.exchanges).foldl (fun o event => (setting.post event o).2) outlet

section Evaluations

variable {setting : Setting σ} {path : List String} {job : Job} {p q : Progress σ}
  {r : Except Fault Signal × Progress σ}

/-- A local request hands over the event that it fires, if any. -/
lemma meet_delivers {node : Node} {request : Request} {a : request.Answer}
    (hl : IsLocal setting.graph node request)
    (hm : ∀ read, meet setting node read request p = (.ok a, q)) :
    q.outlet = (events setting.graph [⟨node.id, request, a⟩]).foldl
      (fun o event => (setting.post event o).2) p.outlet := by
  obtain rfl := eq_effect_of_meet hl hm
  cases request with
  | fire action => simp [events, effect]
  | _ => rfl

/-- What was delivered before and is handed over now is delivered. -/
lemma Delivered.met {node : Node} {request : Request} {a : request.Answer} {outlet : σ}
    (hp : Delivered setting outlet p) (hl : IsLocal setting.graph node request)
    (hm : ∀ read, meet setting node read request p = (.ok a, q)) :
    Delivered setting outlet (record ⟨node.id, request, a⟩ q) := by
  have hout := meet_delivers hl hm
  rw [Delivered] at hp
  rw [Delivered, record, (meet_keeps hl hm).2.2, events, List.filterMap_append, ← events,
    ← events, List.foldl_append, ← hp]
  exact hout

/-- What an evaluation fires, it delivers, as long as all goes well. -/
lemma Runs.delivers (h : Runs setting path job p r) {s : Signal} (hr : r.1 = .ok s) {outlet : σ}
    (hp : Delivered setting outlet p) : Delivered setting outlet r.2 := by
  induction h generalizing s with
  | overridden | recalled | cut | absent => exact hp
  | entered _ _ _ _ _ ih => exact ih rfl hp
  | failed | fail | broken | refused => cases hr
  | done => exact hp
  | wired _ _ _ ihv ih =>
    refine ih hr ?_
    have hq := ihv rfl hp
    simpa [Delivered, record, events] using hq
  | met hl hm _ ih => exact ih hr (hp.met hl hm)

/-- What is remembered under the id of a node that does not act stays. -/
lemma Runs.spares (h : Runs setting path job p r) (hf : Fits setting.graph job) {id : String}
    (hid : ∀ node, setting.graph.node? id = some node → node.isAction = false) :
    Fields.get? r.2.triggers id = Fields.get? p.triggers id := by
  -- only actions look at triggers
  have hquiet {node : Node} {request : Request} {next : request.Answer → Program Outcome}
      (hf : Fits setting.graph (.rest node (.ask request next))) :
      ∀ v, request = .edge v → node.id ≠ id := by
    rintro v rfl rfl
    obtain ⟨hnode, ⟨kind, hkind, hact⟩, -⟩ := hf
    have hnot := hid node hnode
    simp only [Node.isAction, hkind, Option.any_some] at hnot
    exact Bool.false_ne_true (hnot.symm.trans hact)
  induction h with
  | overridden | recalled | cut | absent | done | fail => rfl
  | entered _ _ _ hn _ ih => exact ih (fits_program hn)
  | failed _ _ _ hn _ ih => exact ih (fits_program hn)
  | wired _ _ _ ihv ih => exact (ih (hf.next _)).trans (ihv trivial)
  | broken _ _ ihv => exact ihv trivial
  | met hl hm _ ih => exact (ih (hf.next _)).trans (meet_spares hl hm (hquiet hf))
  | refused hl hm => exact meet_spares hl hm (hquiet hf)

variable {triggers : Fields} {drawn : Nat} {outlet : σ} {a : Appearance}

/-- A row of requests delivers what it fires. -/
lemma Asked.delivers {ids : List String} (h : Asked setting ids p q)
    (hp : Delivered setting outlet p) : Delivered setting outlet q := by
  induction h with
  | nil => exact hp
  | @cons id ids p s q r hs _ ih =>
    exact ih ((runs_of_signal hs).delivers rfl hp)

/-- An evaluation that returns has delivered what it fired. -/
lemma run_delivers (h : run setting (.start triggers drawn outlet) = (.ok a, q)) :
    Delivered setting outlet q := by
  obtain ⟨ids, hids, -⟩ := run_asked h
  exact hids.delivers rfl

/-- A whole evaluation remembers nothing new under the id of a node that does not act. -/
lemma run_spares (triggers : Fields) (drawn : Nat) (outlet : σ) {id : String}
    (hid : ∀ node, setting.graph.node? id = some node → node.isAction = false) :
    Fields.get? (run setting (.start triggers drawn outlet)).2.triggers id =
      Fields.get? triggers id := by
  refine run_keeps (P := fun p => Fields.get? p.triggers id = Fields.get? triggers id)
    (fun other p hp => ?_) rfl
  exact ((signal_runs setting other p).spares trivial hid).trans hp

/-- A whole evaluation leaves an overridden node alone. -/
lemma run_overridden (triggers : Fields) (drawn : Nat) (outlet : σ) {id : String}
    (ho : (Fields.get? setting.overrides id).isSome) :
    own id (run setting (.start triggers drawn outlet)).2.exchanges = [] ∧
      Fields.get? (run setting (.start triggers drawn outlet)).2.triggers id =
        Fields.get? triggers id := by
  refine run_keeps (P := fun p => own id p.exchanges = [] ∧
    Fields.get? p.triggers id = Fields.get? triggers id) (fun other p hp => ?_) ⟨rfl, rfl⟩
  have hclosed : Closed setting id [] p := .inl ho
  obtain ⟨hown, htrigger⟩ := (signal_runs setting other p).frame hclosed trivial
  exact ⟨hown.trans hp.1, htrigger.trans hp.2⟩

end Evaluations

/-! ## Evaluations that share trigger memory -/

/-- One evaluation of a graph that returned: what it was given and what came of it. -/
structure Call (σ : Type) where
  setting : Setting σ
  /-- What is remembered of triggers before. -/
  before : Fields
  drawn : Nat
  outlet : σ
  appearance : Appearance
  /-- The progress at the end, with what is remembered of triggers after. -/
  final : Progress σ

/-- Evaluations of one graph, each of which starts with what the one before it remembered of
triggers, the first one with the given fields. Contexts, overrides, samples and outlets are free. -/
inductive Calls (graph : Graph) : Fields → List (Call σ) → Prop
  | nil {triggers} : Calls graph triggers []
  | cons {call calls} (hgraph : call.setting.graph = graph)
    (hrun : run call.setting (.start call.before call.drawn call.outlet) =
      (.ok call.appearance, call.final))
    (h : Calls graph call.final.triggers calls) : Calls graph call.before (call :: calls)

/-- The value with which a node looked at its trigger last in a row of evaluations, `last` if it
never did. -/
def recorded (id : String) (last : Option Value) (calls : List (Call σ)) : Option Value :=
  calls.foldl (fun last call => (looks (own id call.final.exchanges)).getLast?.or last) last

section Calls

variable {graph : Graph} {triggers : Fields}

/-- The law of an action in one of the evaluations: an overridden action does nothing, any other one
looks at its trigger and fires if it rises. -/
def Lawful (graph : Graph) (node : Node) (call : Call σ) : Prop :=
  ((Fields.get? call.setting.overrides node.id).isSome →
    own node.id call.final.exchanges = [] ∧
      Fields.get? call.final.triggers node.id = Fields.get? call.before node.id) ∧
  (Fields.get? call.setting.overrides node.id = none →
    ∃ v, ActsOnRise graph node (Fields.get? call.before node.id)
      (Fields.get? call.final.triggers node.id) (own node.id call.final.exchanges) v)

/-- Every evaluation is lawful. -/
lemma lawful_of_run {call : Call σ} {node : Node}
    (hrun : run call.setting (.start call.before call.drawn call.outlet) =
      (.ok call.appearance, call.final))
    (hn : call.setting.graph.node? node.id = some node) (hact : node.isAction = true) :
    Lawful call.setting.graph node call := by
  refine ⟨fun ho => ?_, fun ho => ?_⟩
  · have hover := run_overridden call.before call.drawn call.outlet ho
    rwa [hrun] at hover
  · obtain ⟨-, o, hdialogue⟩ := run_finishes hrun hn hact ho
    exact hdialogue.actsOnRise _ hact

/-- A lawful evaluation leaves the value that was looked at last. -/
lemma Lawful.recorded {call : Call σ} {node : Node} (h : Lawful graph node call) :
    Fields.get? call.final.triggers node.id =
      (Evaluation.looks (own node.id call.final.exchanges)).getLast?.or
        (Fields.get? call.before node.id) := by
  rcases ho : Fields.get? call.setting.overrides node.id with _ | v
  · obtain ⟨v, hv⟩ := h.2 ho
    rw [hv.remembers, hv.looks]
    rfl
  · obtain ⟨hown, htrigger⟩ := h.1 (by rw [ho]; rfl)
    rw [htrigger, hown]
    rfl

/-- **Actions fire exactly on rising edges.** In each of several evaluations of one graph that hand
on what they remember of triggers, a node that acts is left alone if it is overridden; else it looks
at its trigger once, there is at most one event of it, and there is one exactly if its trigger is
true, was not true when the node last looked at it in an earlier evaluation, and its payload counts
as true. The events are what the evaluation delivers, and under the id of a node that does not act
nothing is ever remembered.

**Proof sketch.** Induction on the evaluations. In each of them the node has finished one dialogue
of its program, whichever way it was reached. -/
theorem actions_fire_on_rising_edges (earlier later : List (Call σ)) (call : Call σ)
    (h : Calls graph triggers (earlier ++ call :: later)) :
    (∀ node, graph.node? node.id = some node → node.isAction = true →
      Fields.get? call.before node.id =
        recorded node.id (Fields.get? triggers node.id) earlier ∧ Lawful graph node call) ∧
    (∀ id, (∀ node, graph.node? id = some node → node.isAction = false) →
      Fields.get? call.final.triggers id = Fields.get? triggers id) ∧
    Delivered call.setting call.outlet call.final := by
  induction earlier generalizing triggers with
  | nil =>
    obtain _ | ⟨rfl, hrun, -⟩ := h
    refine ⟨fun node hn hact => ⟨rfl, lawful_of_run hrun hn hact⟩, fun id hid => ?_,
      run_delivers hrun⟩
    have hspare := run_spares call.before call.drawn call.outlet hid
    rwa [hrun] at hspare
  | cons first earlier ih =>
    obtain _ | ⟨rfl, hrun, htail⟩ := h
    obtain ⟨hlaw, hspares, hdelivered⟩ := ih htail
    refine ⟨fun node hn hact => ?_, fun id hid => ?_, hdelivered⟩
    · obtain ⟨hbefore, hlawful⟩ := hlaw node hn hact
      refine ⟨?_, hlawful⟩
      rw [hbefore, (lawful_of_run hrun hn hact).recorded]
      rfl
    · have hspare := run_spares first.before first.drawn first.outlet hid
      rw [hrun] at hspare
      exact (hspares id hid).trans hspare

/-- A bell that rings when it is switched on; its null goes to a page request and to the display. -/
def bell : Graph :=
  ⟨[⟨"go", "NAVIGATE", [("value", .str "home")]⟩, ⟨"ring", "ALERT", [("value", .str "ding")]⟩,
      ⟨"on", "TOGGLE", [("value", .bool true)]⟩, ⟨"out", "OUTPUT", []⟩],
    [⟨"ring", "go", "in-trigger"⟩, ⟨"on", "ring", "in-trigger"⟩, ⟨"ring", "out", "in-content"⟩],
    .null, .null⟩

/-- An evaluation of the bell with the switch overridden or not. -/
def bellCall (overrides before : Fields) : Call (List Event) :=
  let setting : Setting (List Event) :=
    ⟨bell, overrides, .initial, fun _ => 0.5, fun event heard => (none, heard ++ [event])⟩
  ⟨setting, before, 0, [], ⟨[], some ""⟩, (run setting (.start before 0 [])).2⟩

/-- A bell that is switched on rings once, and not again while it stays on. -/
theorem bell_rings_once :
    let off := bellCall [("on", .bool false)] []
    let on := bellCall [] off.final.triggers
    let still := bellCall [] on.final.triggers
    Calls bell [] [off, on, still] ∧
      recorded "ring" none [off] = some (.bool false) ∧
      events bell (own "ring" on.final.exchanges) ≠ [] ∧
      recorded "ring" none [off, on] = some (.bool true) ∧
      events bell (own "ring" still.final.exchanges) = [] := by
  intro off on still
  have hreturns : ∀ call ∈ [off, on, still], (run call.setting
      (.start call.before call.drawn call.outlet)).1 = .ok call.appearance := by decide
  have hcalls : Calls bell [] [off, on, still] :=
    .cons rfl (Prod.ext (hreturns off (by simp)) rfl)
      (.cons rfl (Prod.ext (hreturns on (by simp)) rfl)
        (.cons rfl (Prod.ext (hreturns still (by simp)) rfl) .nil))
  let ring : Node := ⟨"ring", "ALERT", [("value", .str "ding")]⟩
  have hring : bell.node? ring.id = some ring := by decide
  obtain ⟨hfirst, -, hlaw⟩ :=
    (actions_fire_on_rising_edges [off] [still] on hcalls).1 ring hring (by decide)
  obtain ⟨hsecond, -, hlaw'⟩ :=
    (actions_fire_on_rising_edges [off, on] [] still hcalls).1 ring hring (by decide)
  have hoff : recorded "ring" none [off] = some (.bool false) := by decide
  have hon : recorded "ring" none [off, on] = some (.bool true) := by decide
  refine ⟨hcalls, hoff, ?_, hon, ?_⟩
  · obtain ⟨v, hv⟩ := hlaw rfl
    have hseen : seen "in-trigger" (own "ring" on.final.exchanges) = [.bool true] := by decide
    have hpayload : payload ring (own "ring" on.final.exchanges) >>= Coercion.truthy = .ok true :=
      by decide
    have hvalue : v = .bool true := List.singleton_injective (hv.reads.symm.trans hseen)
    refine hv.fires.2 ⟨hvalue, ?_, hpayload⟩
    rw [hfirst.trans hoff]
    decide
  · obtain ⟨v, hv⟩ := hlaw' rfl
    by_contra hrings
    exact (hv.fires.1 hrings).2.1 (hsecond.trans hon)

end Calls

end Evaluation

end DesignGraph
