import DesignGraph.Live.Session
import DesignGraph.Proofs.Action.Rounds
import DesignGraph.Proofs.Composition.Calls
/-!
# Deliveries

What graphs fire goes to the dispatcher of their session. There alerts wait, while every other event
is delivered at once, and a dispatcher that is not strict delivers to all processors, whatever they
refuse. So what a processor hears of while graphs are evaluated is what they fire and what is no
alert, in the order in which it is fired; the alerts are added to those that wait; and the page that
is asked for is the last one that was navigated to.

## Main definitions

* `DesignGraph.Dispatcher.Hears` — all processors have heard of events, and of no others.
* `DesignGraph.Dispatcher.Takes`, `DesignGraph.Outlet.Takes` — fired events were taken.
* `DesignGraph.lastPage` — the page that navigations ask for.
* `DesignGraph.Evaluation.Call.fired` — what an evaluation fires for an element.

## Main results

* `DesignGraph.Dispatcher.flush_hears` — the alerts that wait are delivered, in order.
* `DesignGraph.Composition.calls_take` — the outlet of a composition has taken what its graphs fire.
* `DesignGraph.Evaluation.run_navigates_to_page` — only pages are asked for that count as true.
-/

set_option relaxedAutoImplicit false
set_option autoImplicit false

namespace DesignGraph

/-! ## Processors -/

namespace Dispatcher

/-- All processors have heard of the given events, in order, and of no others. -/
structure Hears (events : List Event) (d d' : Dispatcher) : Prop where
  strict : d'.strict = d.strict
  processors : d'.processors = d.processors
  journal : ∀ position < d.processors.length,
    heard d'.journal position = heard d.journal position ++ events

section Hears

variable {events more : List Event} {d d' d'' : Dispatcher}

lemma Hears.refl (d : Dispatcher) : Hears [] d d :=
  ⟨rfl, rfl, fun _ _ => (List.append_nil _).symm⟩

lemma Hears.trans (h : Hears events d d') (h' : Hears more d' d'') :
    Hears (events ++ more) d d'' where
  strict := h'.strict.trans h.strict
  processors := h'.processors.trans h.processors
  journal := fun position hposition => by
    rw [h'.journal position (h.processors ▸ hposition), h.journal position hposition,
      List.append_assoc]

/-- In rounds all processors hear of the events. -/
lemma callAll_hears (events : List Event) (d : Dispatcher) :
    Hears events d (d.callAll (events.map .event)) where
  strict := by rw [callAll_eq]
  processors := by rw [callAll_eq]
  journal := fun _ hposition => heard_callAll hposition events

/-- A dispatcher that is not strict delivers an event to every processor; alerts wait as before. -/
lemma deliver_hears (hd : d.strict = false) (event : Event) :
    ∃ d', d.deliver event = (none, d') ∧ Hears [event] d d' ∧ d'.pending = d.pending :=
  ⟨_, deliver_lenient hd event, callAll_hears [event] d, rfl⟩

/-- A dispatcher that is not strict delivers events one after the other. -/
lemma deliverAll_hears (hd : d.strict = false) (events : List Event) :
    ∃ d', deliverAll events d = (none, d') ∧ Hears events d d' ∧ d'.pending = d.pending :=
  ⟨_, deliverAll_eq_callAll hd events, callAll_hears events d, by rw [callAll_eq]⟩

/-- **The alerts that wait are delivered, in order**, their number is reported, and none of them
waits any more. -/
lemma flush_hears (hd : d.strict = false) :
    ∃ d', d.flush = (.ok d.pending.length, d') ∧ Hears d.pending d d' ∧ d'.pending = [] := by
  obtain ⟨d', hall, hhears, hpending⟩ :=
    deliverAll_hears (d := { d with pending := [] }) hd d.pending
  refine ⟨d', ?_, ⟨hhears.strict, hhears.processors, hhears.journal⟩, hpending⟩
  rw [flush, hall]

end Hears

/-- Fired events were taken: all processors have heard of those that are no alerts, and the alerts
have been added to those that wait. -/
structure Takes (events : List Event) (d d' : Dispatcher) : Prop
    extends Hears (events.filter fun event => !event.isAlert) d d' where
  pending : d'.pending = d.pending ++ events.filter Event.isAlert

section Takes

variable {events more : List Event} {d d' d'' : Dispatcher}

lemma Takes.refl (d : Dispatcher) : Takes [] d d :=
  ⟨.refl d, (List.append_nil _).symm⟩

lemma Takes.trans (h : Takes events d d') (h' : Takes more d' d'') :
    Takes (events ++ more) d d'' := by
  have hheard := h.toHears.trans h'.toHears
  rw [← List.filter_append] at hheard
  refine ⟨hheard, ?_⟩
  rw [h'.pending, h.pending, List.filter_append, List.append_assoc]

/-- A dispatcher that is not strict takes the event of every action. -/
lemma emit_takes (hd : d.strict = false) (scope : Value) {event : Event}
    (horigin : event.origin?.isSome) :
    ∃ d', d.emit scope event = (none, d') ∧ Takes [event.stamp scope] d d' := by
  have hnone : event.origin?.isNone = false := by simpa using horigin
  cases halert : (event.stamp scope).isAlert with
  | true =>
    refine ⟨{ d with pending := d.pending ++ [event.stamp scope] }, ?_, ?_, ?_⟩
    · rw [emit, hnone]
      simp only [halert]
      rfl
    · rw [List.filter_singleton, halert]
      exact ⟨rfl, rfl, fun _ _ => (List.append_nil _).symm⟩
    · rw [List.filter_singleton, halert]
      rfl
  | false =>
    obtain ⟨d', hdeliver, hhears, hpending⟩ := deliver_hears hd (event.stamp scope)
    refine ⟨d', ?_, ?_, ?_⟩
    · rw [emit, hnone]
      simp only [halert]
      exact hdeliver
    · rw [List.filter_singleton, halert]
      exact hhears
    · rw [List.filter_singleton, halert]
      exact hpending.trans (List.append_nil _).symm

end Takes

end Dispatcher

/-! ## Outlets -/

/-- The page that an event navigates to. -/
def Event.page? : Event → Option Value
  | .navigate _ page => some page
  | _ => none

/-- The page that is asked for after events, if `before` was asked for before: the last one that was
navigated to. -/
def lastPage (events : List Event) (before : Value) : Value :=
  (events.filterMap Event.page?).getLast?.getD before

lemma lastPage_append (events more : List Event) (before : Value) :
    lastPage (events ++ more) before = lastPage more (lastPage events before) := by
  rw [lastPage, List.filterMap_append, List.getLast?_append]
  rcases hmore : (more.filterMap Event.page?).getLast? with _ | page <;> simp [lastPage, hmore]

/-- The event of an action has an origin. -/
lemma Event.isSome_origin?_ofAction (origin : Origin) (action : Action) :
    (ofAction origin action).origin?.isSome := by
  cases action <;> rfl

/-- Naming the element leaves the page that an event navigates to. -/
lemma Event.page?_stamp (scope : Value) (event : Event) :
    (event.stamp scope).page? = event.page? := by
  cases event <;> simp only [stamp, origin?] <;> split_ifs <;> rfl

namespace Outlet

/-- Fired events were taken: by the dispatcher, and as requests for pages. -/
structure Takes (events : List Event) (o o' : Outlet) : Prop where
  dispatcher : Dispatcher.Takes events o.dispatcher o'.dispatcher
  page : o'.pendingPage = lastPage events o.pendingPage

variable {events more : List Event} {o o' o'' : Outlet} {element : String}

lemma Takes.refl (o : Outlet) : Takes [] o o :=
  ⟨.refl _, rfl⟩

lemma Takes.trans (h : Takes events o o') (h' : Takes more o' o'') :
    Takes (events ++ more) o o'' :=
  ⟨h.dispatcher.trans h'.dispatcher, by rw [lastPage_append, h'.page, h.page]⟩

/-- What comes after an event that was taken is not strict if what came before was not. -/
lemma Takes.lenient (h : Takes events o o') (ho : o.dispatcher.strict = false) :
    o'.dispatcher.strict = false :=
  h.dispatcher.strict.trans ho

/-- An outlet that is not strict takes the event of every action, which names the element. -/
lemma post_takes (ho : o.dispatcher.strict = false) {event : Event}
    (horigin : event.origin?.isSome) :
    Takes [event.stamp (.str element)] o (post element event o).2 := by
  obtain ⟨d', hemit, htakes⟩ := Dispatcher.emit_takes ho (.str element) horigin
  have hpage : (post element event o).2.pendingPage = event.page?.getD o.pendingPage := by
    cases event <;> rfl
  have hdispatcher : (post element event o).2.dispatcher = d' := congrArg Prod.snd hemit
  refine ⟨hdispatcher ▸ htakes, ?_⟩
  rw [hpage, lastPage, ← Event.page?_stamp (.str element)]
  rcases hstamped : (event.stamp (.str element)).page? with _ | page <;> simp [hstamped]

/-- An outlet that is not strict takes the events of actions one after the other. -/
lemma foldl_post_takes (ho : o.dispatcher.strict = false)
    (horigins : ∀ event ∈ events, event.origin?.isSome) :
    Takes (events.map (Event.stamp (.str element))) o
      (events.foldl (fun o event => (post element event o).2) o) := by
  induction events generalizing o with
  | nil => exact .refl o
  | cons event rest ih =>
    obtain ⟨hevent, hrest⟩ := List.forall_mem_cons.1 horigins
    have hfirst : Takes [event.stamp (.str element)] o (post element event o).2 :=
      post_takes ho hevent
    exact hfirst.trans (ih (hfirst.lenient ho) hrest)

end Outlet

/-! ## Evaluations -/

namespace Evaluation

variable {σ : Type}

/-- What is fired is the event of an action, without an element. -/
lemma exists_of_mem_events {graph : Graph} {exchanges : List Exchange} {event : Event}
    (h : event ∈ events graph exchanges) :
    ∃ node action, event = .ofAction ⟨.str node, graph.id, .null⟩ action := by
  obtain ⟨⟨node, request, answer⟩, -, hevent⟩ := List.mem_filterMap.1 h
  cases request with
  | fire action =>
    cases hevent
    exact ⟨node, action, rfl⟩
  | _ => cases hevent

/-- What an evaluation fires for an element, in order. -/
def Call.fired (element : String) (call : Call σ) : List Event :=
  (events call.setting.graph call.final.exchanges).map (Event.stamp (.str element))

end Evaluation

namespace Composition

/-- **The outlet of a composition has taken what its graphs fire**, in composition order. -/
theorem calls_take {setting : Setting Outlet} {element : String} {graphs : List Graph}
    {below computed : Appearance} {p q : Progress Outlet}
    (hpost : setting.post = Outlet.post element) (hp : p.outlet.dispatcher.strict = false)
    (h : evaluateAll setting graphs below p = (.ok computed, q)) :
    Outlet.Takes ((calls setting graphs p).flatMap (Evaluation.Call.fired element))
      p.outlet q.outlet := by
  induction graphs generalizing below p with
  | nil =>
    cases h
    exact .refl _
  | cons graph rest ih =>
    rw [evaluateAll] at h
    rw [calls]
    rcases hrun : Evaluation.run (setting.forGraph graph) (setting.start p) with ⟨fault | a, q₁⟩
    · rw [hrun] at h
      cases h
    rw [hrun] at h
    have hdelivered : q₁.outlet = (Evaluation.events graph q₁.exchanges).foldl
        (fun o event => (Outlet.post element event o).2) p.outlet := by
      rw [← hpost]
      exact Evaluation.run_delivers hrun
    have hfirst : Outlet.Takes
        ((Evaluation.events graph q₁.exchanges).map (Event.stamp (.str element)))
        p.outlet q₁.outlet := by
      rw [hdelivered]
      refine Outlet.foldl_post_takes hp fun event hevent => ?_
      obtain ⟨node, action, rfl⟩ := Evaluation.exists_of_mem_events hevent
      exact Event.isSome_origin?_ofAction _ action
    exact hfirst.trans (ih (hfirst.lenient hp) h)

end Composition

/-! ## Pages that are asked for -/

namespace Evaluation

variable {σ : Type} {setting : Setting σ} {triggers : Fields} {drawn : Nat} {outlet : σ}
  {a : Appearance} {q : Progress σ}

/-- **A whole evaluation navigates only to pages that count as true.** -/
theorem run_navigates_to_page (h : run setting (.start triggers drawn outlet) = (.ok a, q))
    {event : Event} (hevent : event ∈ events setting.graph q.exchanges) {page : Value}
    (hpage : event.page? = some page) : Coercion.truthy page = .ok true := by
  obtain ⟨⟨id, request, answer⟩, hmem, hfires⟩ := List.mem_filterMap.1 hevent
  obtain rfl : request = .fire (.navigate page) := by
    cases request with
    | fire action => cases action <;> cases hfires <;> cases hpage; rfl
    | _ => cases hfires
  have hmade := run_madeByNode setting triggers drawn outlet
  rw [h] at hmade
  obtain ⟨⟨-, ho⟩, node, kind, hn, hkind, hask⟩ := hmade _ hmem
  obtain rfl : node.id = id := Graph.id_of_node? hn
  have hact : node.isAction = true := by
    rw [Node.isAction, hkind]
    exact hask
  obtain ⟨o, hdialogue⟩ := (run_finishes h hn hact ho).dialogue
  have hown : (⟨node.id, .fire (.navigate page), answer⟩ : Exchange) ∈ own node.id q.exchanges :=
    List.mem_filter.2 ⟨hmem, beq_self_eq_true _⟩
  exact hdialogue.within node.program_asksForPage _ hown page rfl

/-- **What an evaluation fires for an element** is the event of an action of that element, and it
navigates to no page but one. -/
lemma exists_of_mem_fired {call : Call σ} {element : String} {event : Event}
    (hrun : run call.setting (.start call.before call.drawn call.outlet) =
      (.ok call.appearance, call.final)) (h : event ∈ call.fired element) :
    ∃ node graph action, event = .ofAction ⟨node, graph, .str element⟩ action ∧
      action ≠ .navigate .null := by
  obtain ⟨fired, hfired, rfl⟩ := List.mem_map.1 h
  obtain ⟨node, action, rfl⟩ := exists_of_mem_events hfired
  refine ⟨.str node, call.setting.graph.id, action, by cases action <;> rfl, ?_⟩
  rintro rfl
  have htruthy : Coercion.truthy .null = .ok true := run_navigates_to_page hrun hfired rfl
  exact absurd htruthy (by decide)

end Evaluation

end DesignGraph
