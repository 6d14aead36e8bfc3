import DesignGraph.Proofs.Live.Deliveries
import DesignGraph.Proofs.Live.Steps
import DesignGraph.Proofs.Live.Triggers
/-!
# The events of a tick

A tick lets its events out in three ways. Navigations and links are delivered while the pass is
still on, alerts wait for its end, and a page that is asked for is shown after them. So what a
processor hears of during a tick comes in that order, whichever elements and graphs fire what. A
tick that ends in a fault leaves behind the alerts that were fired until then. They are neither
dropped nor delivered by the operations that follow, but by the next tick that returns, ahead of its
own ones.

## Main definitions

* `DesignGraph.Session.fired` — what the graphs of the shown page fire in the next tick.
* `DesignGraph.Session.requestedPage`, `DesignGraph.Session.changesPage` — the page that is asked
  for at the end of the next tick, and whether it is another one.
* `DesignGraph.Session.IsLenient` — a session of a project that delivers to given processors.
* `DesignGraph.Session.TickLaw` — the law of events and pages in a tick.

## Main results

* `DesignGraph.Session.IsLenient.receiveAll` — inputs keep a session lenient, whatever faults there
  are.
* `DesignGraph.Session.pending_receive` — no alert waits unless some input ended in a fault.
* `DesignGraph.Session.IsLenient.tickLaw` — every tick of a lenient session that returns obeys the
  law.
* `DesignGraph.Session.tick_orders_events` — so do the ticks of every session that started lenient.
-/

set_option relaxedAutoImplicit false
set_option autoImplicit false

namespace DesignGraph

namespace Dispatcher

variable {processors : List Processor} {d : Dispatcher}

/-! ## Lenient dispatchers -/

/-- A dispatcher that delivers to the given processors, whatever they refuse, and lets only alerts
wait. -/
structure IsLenient (processors : List Processor) (d : Dispatcher) : Prop where
  strict : d.strict = false
  processors : d.processors = processors
  alerts : ∀ event ∈ d.pending, event.isAlert = true

/-- Rounds of deliveries write to the journal and change nothing else. -/
lemma deliverAll_frame (events : List Event) (d : Dispatcher) :
    (deliverAll events d).2 = { d with journal := (deliverAll events d).2.journal } := by
  induction events generalizing d with
  | nil => rfl
  | cons event rest ih =>
    rw [deliverAll]
    rcases hdeliver : d.deliver event with ⟨_ | fault, d₁⟩
    · obtain rfl : _ = d₁ := congrArg Prod.snd hdeliver
      exact ih (d.deliver event).2
    · obtain rfl : _ = d₁ := congrArg Prod.snd hdeliver
      rfl

/-- Delivering the alerts that wait lets none wait and changes nothing else but the journal. -/
lemma flush_frame (d : Dispatcher) :
    d.flush.2 = { d with pending := [], journal := d.flush.2.journal } := by
  have hframe := deliverAll_frame d.pending { d with pending := [] }
  rw [flush]
  rcases hall : deliverAll d.pending { d with pending := [] } with ⟨_ | fault, d'⟩ <;>
  · rw [hall] at hframe
    exact hframe

/-- Where no alert waits there is nothing to deliver. -/
lemma flush_of_pending (h : d.pending = []) : d.flush = (.ok 0, d) := by
  cases d
  cases h
  rfl

lemma IsLenient.deliver (h : d.IsLenient processors) (event : Event) :
    (d.deliver event).2.IsLenient processors :=
  ⟨h.strict, h.processors, h.alerts⟩

lemma IsLenient.flush (h : d.IsLenient processors) : d.flush.2.IsLenient processors := by
  rw [flush_frame]
  exact ⟨h.strict, h.processors, nofun⟩

lemma IsLenient.shutdown (h : d.IsLenient processors) : d.shutdown.2.IsLenient processors :=
  ⟨h.strict, h.processors, h.alerts⟩

/-- Taking an event keeps a dispatcher lenient. -/
lemma IsLenient.emit (h : d.IsLenient processors) (scope : Value) (event : Event) :
    (d.emit scope event).2.IsLenient processors := by
  unfold Dispatcher.emit
  dsimp only
  split_ifs with horigin halert
  · exact h
  · refine ⟨h.strict, h.processors, fun other hother => ?_⟩
    rcases List.mem_append.1 hother with hother | hother
    · exact h.alerts other hother
    · rw [List.mem_singleton.1 hother]
      exact halert
  · exact h.deliver _

end Dispatcher

namespace Session

variable {project : Project} {processors : List Processor} {s s' : Session}

/-! ## Lenient sessions -/

/-- A session of the project that delivers to the given processors, whatever they refuse. -/
structure IsLenient (project : Project) (processors : List Processor) (s : Session) : Prop where
  project : s.project = project
  dispatcher : s.dispatcher.IsLenient processors

lemma IsLenient.congr (h : s.IsLenient project processors) (hproject : s'.project = s.project)
    (hdispatcher : s'.dispatcher = s.dispatcher) : s'.IsLenient project processors :=
  ⟨hproject.trans h.project, hdispatcher ▸ h.dispatcher⟩

/-- A visit keeps a session lenient, also one that ends in a fault. -/
lemma IsLenient.visit (h : s.IsLenient project processors) (element : Element) :
    (s.visit element).2.IsLenient project processors := by
  rcases visit_effects element s with heq | ⟨shown, animations, p, rfl, heq⟩
  · rwa [heq]
  rw [heq]
  have hcompose : (Composition.compose (s.setting element)
      (s.progress element)).2.outlet.dispatcher.IsLenient processors :=
    Composition.compose_keeps_outlet (Q := fun o : Outlet => o.dispatcher.IsLenient processors)
      (fun event o ho => ho.emit (.str element.id) event) h.dispatcher
  exact ⟨h.project, hcompose⟩

/-- Showing a page keeps a session lenient, also a page that is refused. -/
lemma IsLenient.navigateTo (h : s.IsLenient project processors) (page : Value) :
    (s.navigateTo page).2.IsLenient project processors := by
  rcases navigateTo_effects page s with
    ⟨-, heq⟩ | ⟨-, -, heq⟩ | ⟨-, -, document, shown, animations, -, heq⟩ <;> rw [heq]
  · exact h
  · exact h.congr rfl rfl
  · exact ⟨h.project, h.dispatcher.deliver _⟩

/-- Every step keeps a session lenient. -/
lemma IsLenient.step {given : List Input} (h : s.IsLenient project processors)
    (hstep : Step given s s') : s'.IsLenient project processors := by
  cases hstep with
  | aside => exact h.congr rfl rfl
  | point input _ hpoints =>
    obtain ⟨_, _, heq⟩ := receive_pointing hpoints s
    rw [heq]
    exact h.congr rfl rfl
  | visit element => exact h.visit element
  | flush =>
    rw [flush_effects]
    exact ⟨h.project, h.dispatcher.flush⟩
  | shutdown => exact ⟨h.project, h.dispatcher.shutdown⟩
  | ask page => exact h.congr rfl rfl
  | follow =>
    have hasked : ({ s with pendingPage := .null } : Session).IsLenient project processors :=
      h.congr rfl rfl
    exact hasked.navigateTo _
  | navigate page => exact h.navigateTo page

/-- **Inputs keep a session lenient**, whatever faults there are. -/
theorem IsLenient.receiveAll (h : s.IsLenient project processors) (inputs : List Input) :
    (Session.receiveAll inputs s).2.IsLenient project processors :=
  receiveAll_induct (fun _ _ hstep hs => hs.step hstep) h

/-- A new session is lenient. -/
lemma isLenient_new (project : Project) (document : Document) (processors : List Processor)
    (samples : Nat → Float) (clock : Clock) :
    (new project document (.new processors false) samples clock).IsLenient project processors :=
  ⟨rfl, rfl, rfl, nofun⟩

/-! ## Alerts that wait -/

/-- A change of the state, or its failure, touches neither project nor dispatcher. -/
lemma setState_keeps (s : Session) (changed : Except Fault LiveState) :
    (s.setState changed).2.project = s.project ∧
      (s.setState changed).2.dispatcher = s.dispatcher := by
  rcases changed with fault | state <;> exact ⟨rfl, rfl⟩

/-- A page that comes to be shown makes no alert wait. -/
lemma pending_navigateTo {page : Value} (h : s.navigateTo page = (none, s')) :
    s'.dispatcher.pending = s.dispatcher.pending := by
  cases hequals : s.state.page.equals page with
  | true =>
    rw [navigateTo, if_pos hequals] at h
    cases h
    rfl
  | false =>
    obtain ⟨document, animations, rfl⟩ := navigateTo_frame hequals h
    rfl

/-- **After a tick that returns no alert waits**, whatever waited before. -/
lemma pending_tick (h : s.tick = (none, s')) : s'.dispatcher.pending = [] := by
  obtain ⟨passed, n, dispatcher, -, hflush, hfollow⟩ := tick_ok h
  have hpending : dispatcher.pending = [] := by
    have hframe := congrArg Dispatcher.pending passed.dispatcher.flush_frame
    rwa [hflush] at hframe
  rw [followRequest] at hfollow
  split_ifs at hfollow
  · cases hfollow
    exact hpending
  · exact (pending_navigateTo hfollow).trans hpending

/-- A run that returns leaves no alert waiting if none waited before. -/
lemma pending_runFrames {interval : Float} {stopAt : Option Int} {limit count n : Nat}
    (hr : runFrames interval stopAt limit count s = (.ok n, s')) (h : s.dispatcher.pending = []) :
    s'.dispatcher.pending = [] := by
  induction limit generalizing count s with
  | zero =>
    cases hr
    exact h
  | succ limit ih =>
    rw [runFrames] at hr
    split_ifs at hr
    · cases hr
      exact h
    dsimp only at hr
    rcases htick : s.readClock.2.tick with ⟨_ | fault, s₁⟩
    · rw [htick] at hr
      have hticked := pending_tick htick
      refine ih hr ?_
      split_ifs <;> exact hticked
    · rw [htick] at hr
      cases hr

/-- **An input that returns leaves no alert waiting** if none waited before. -/
lemma pending_receive {input : Input} (hr : s.receive input = (none, s'))
    (h : s.dispatcher.pending = []) : s'.dispatcher.pending = [] := by
  obtain rfl : _ = s' := congrArg Prod.snd hr
  cases input with
  | mount | stop | requestNavigation | advance => exact h
  | tick => exact pending_tick hr
  | run frames fps stopAt =>
    rw [receive, run] at hr ⊢
    rcases hinterval : Number.dividedBy (.float 1) fps with fault | interval
    · rw [hinterval] at hr
      cases hr
    rcases hframes : runFrames interval stopAt (s.frameLimit frames stopAt) 0
      { s with running := true } with ⟨fault | n, s₁⟩
    · simp only [hinterval, hframes] at hr
      cases hr
    · simp only [hframes]
      exact pending_runFrames hframes h
  | close =>
    rw [receive, close]
    split_ifs
    · exact h
    · exact h
  | pointerEnter id | pointerLeave id | click id =>
    exact (congrArg Dispatcher.pending (setState_keeps s _).2).trans h
  | navigateTo page => exact (pending_navigateTo hr).trans h

/-- If no input ends in a fault, then no alert waits afterwards that did not wait before. -/
lemma pending_receiveAll {inputs : List Input}
    (hfaults : ∀ fault ∈ (receiveAll inputs s).1, fault = none)
    (h : s.dispatcher.pending = []) : (receiveAll inputs s).2.dispatcher.pending = [] := by
  induction inputs generalizing s with
  | nil => exact h
  | cons input rest ih =>
    obtain ⟨hfirst, hrest⟩ := List.forall_mem_cons.1 hfaults
    exact ih hrest (pending_receive (Prod.ext hfirst rfl) h)

/-! ## What a tick fires -/

/-- Setting the time changes nothing about actions. -/
lemma setTime_outlet (s : Session) :
    s.setTime.dispatcher = s.dispatcher ∧ s.setTime.pendingPage = s.pendingPage := by
  obtain ⟨_, _, _, _, hset⟩ := setTime_frame s
  rw [hset]
  exact ⟨rfl, rfl⟩

/-- What the graphs of an element fire when its turn comes, in order. -/
def firedBy (s : Session) (element : Element) : List Event :=
  (s.turn element).flatMap (Evaluation.Call.fired element.id)

/-- What the graphs of elements fire in a pass, in order. -/
def firedIn : List Element → Session → List Event
  | [], _ => []
  | element :: rest, s => s.firedBy element ++ firedIn rest (s.visit element).2

/-- What the graphs of the shown page fire in the next tick, in order. -/
def fired (s : Session) : List Event :=
  firedIn s.shown s.setTime

/-- The page that is asked for when the pass of the next tick is over: the last one that it
navigates to, else the one that was asked for before; null for none. -/
def requestedPage (s : Session) : Value :=
  lastPage s.fired s.pendingPage

/-- Whether a page is asked for that is not the one that is shown. -/
def asksForOther (shown asked : Value) : Bool :=
  asked ≠ .null && !shown.equals asked

/-- Whether the next tick ends with another page. -/
def changesPage (s : Session) : Bool :=
  asksForOther s.state.page s.requestedPage

/-- Where the actions of a session go. -/
def outlet (s : Session) : Outlet :=
  ⟨s.pendingPage, s.dispatcher⟩

/-- **A visit delivers what the graphs of its element fire**, or lets it wait. -/
lemma visit_takes {element : Element} (hs : s.dispatcher.strict = false)
    (h : s.visit element = (none, s')) : Outlet.Takes (s.firedBy element) s.outlet s'.outlet := by
  rcases visit_absorbs h with ⟨hnot, rfl⟩ |
    ⟨live, c, p, _, _, hlive, hmounted, hcompose, -, rfl⟩
  · rw [firedBy, turn_eq_nil hnot]
    exact .refl _
  · obtain ⟨graphs, computed, hgraphs, hall, -⟩ := Composition.evaluateAll_of_compose hcompose
    rw [firedBy, turn_eq hlive hmounted hgraphs]
    exact Composition.calls_take rfl hs hall

/-- **A pass delivers what graphs fire**, or lets it wait, element after element. -/
lemma visitAll_takes {elements : List Element} (hs : s.dispatcher.strict = false)
    (h : visitAll elements s = (none, s')) :
    Outlet.Takes (firedIn elements s) s.outlet s'.outlet := by
  induction elements generalizing s with
  | nil =>
    cases h
    exact .refl _
  | cons element rest ih =>
    obtain ⟨s₁, hvisit, hrest⟩ := visitAll_cons h
    have hfirst := visit_takes hs hvisit
    rw [firedIn, hvisit]
    exact hfirst.trans (ih (hfirst.lenient hs) hrest)

/-- Every evaluation of a turn has returned. -/
lemma run_of_mem_turn {element : Element} {call : Evaluation.Call Outlet}
    (h : call ∈ s.turn element) :
    Evaluation.run call.setting (.start call.before call.drawn call.outlet) =
      (.ok call.appearance, call.final) := by
  rw [turn] at h
  rcases hlive : s.document.element? element.id with _ | live
  · simp [hlive] at h
  rcases hgraphs : element.graphs s.project with fault | graphs
  · simp [hlive, hgraphs] at h
  · simp only [hlive, hgraphs] at h
    split_ifs at h
    · exact Composition.run_of_mem_calls h
    · cases h

/-- What is fired in a pass is the event of an action of one of its elements. -/
lemma exists_of_mem_firedIn {elements : List Element} {event : Event}
    (h : event ∈ firedIn elements s) :
    ∃ element ∈ elements, ∃ node graph action,
      event = .ofAction ⟨node, graph, .str element.id⟩ action ∧ action ≠ .navigate .null := by
  induction elements generalizing s with
  | nil => cases h
  | cons element rest ih =>
    rcases List.mem_append.1 h with h | h
    · obtain ⟨call, hcall, hfired⟩ := List.mem_flatMap.1 h
      exact ⟨element, List.mem_cons_self,
        Evaluation.exists_of_mem_fired (run_of_mem_turn hcall) hfired⟩
    · obtain ⟨other, hother, hevent⟩ := ih h
      exact ⟨other, List.mem_cons_of_mem _ hother, hevent⟩

/-! ## The law -/

/-- **The law of events and pages** in a tick that leads from `s` to `s'`. -/
structure TickLaw (project : Project) (processors : List Processor) (s s' : Session) : Prop where
  /-- The pass goes over the elements of the page that is shown at the start. -/
  shown : s.shown = project.elementsOn s.state.page
  /-- Of all other elements no graph is evaluated, and their trigger memory stays. -/
  others : ∀ id, id ∉ s.shown.map (·.id) →
    s.turnsOf id = [] ∧ Fields.get? s'.state.triggers id = Fields.get? s.state.triggers id
  /-- What is fired is the event of an action of an element of the page. -/
  fired : ∀ event ∈ s.fired, ∃ element ∈ s.shown, ∃ node graph action,
    event = .ofAction ⟨node, graph, .str element.id⟩ action ∧ action ≠ .navigate .null
  /-- Only alerts were left waiting. -/
  left : ∀ event ∈ s.dispatcher.pending, event.isAlert = true
  /-- Every processor hears of what is fired and no alert, then of the alerts that were left waiting
  and those that are fired, then of the change of the page, if any. -/
  heard : ∀ position < processors.length,
    heard s'.dispatcher.journal position = heard s.dispatcher.journal position ++
      s.fired.filter (fun event => !event.isAlert) ++
      (s.dispatcher.pending ++ s.fired.filter Event.isAlert) ++
      if s.changesPage then [.pageChanged s.state.page s.requestedPage] else []
  /-- No alert waits afterwards. -/
  delivered : s'.dispatcher.pending = []
  /-- The page that is asked for is shown. -/
  page : s'.state.page = if s.changesPage then s.requestedPage else s.state.page
  /-- No page is asked for any more. -/
  followed : s'.pendingPage = .null

/-- **Following a request** changes the page exactly if another one is asked for, and then all
processors hear of that. -/
lemma followRequest_hears (hs : s.dispatcher.strict = false) (h : s.followRequest = (none, s')) :
    Dispatcher.Hears
        (if asksForOther s.state.page s.pendingPage then [.pageChanged s.state.page s.pendingPage]
          else []) s.dispatcher s'.dispatcher ∧
      s'.state.page = (if asksForOther s.state.page s.pendingPage then s.pendingPage
        else s.state.page) ∧
      s'.pendingPage = .null := by
  rw [followRequest] at h
  by_cases hnone : s.pendingPage = .null
  · have hstays : asksForOther s.state.page s.pendingPage = false := by simp [asksForOther, hnone]
    rw [if_pos hnone] at h
    cases h
    rw [hstays]
    exact ⟨.refl _, rfl, hnone⟩
  rw [if_neg hnone] at h
  cases hequals : s.state.page.equals s.pendingPage with
  | true =>
    have hstays : asksForOther s.state.page s.pendingPage = false := by simp [asksForOther, hequals]
    rw [navigateTo, if_pos hequals] at h
    cases h
    rw [hstays]
    exact ⟨.refl _, rfl, rfl⟩
  | false =>
    have hleaves : asksForOther s.state.page s.pendingPage = true := by
      simp [asksForOther, hequals, hnone]
    obtain ⟨document, animations, rfl⟩ :=
      navigateTo_frame (s := { s with pendingPage := .null }) hequals h
    obtain ⟨d', hdeliver, hhears, -⟩ :=
      Dispatcher.deliver_hears hs (.pageChanged s.state.page s.pendingPage)
    rw [hleaves]
    refine ⟨?_, rfl, rfl⟩
    dsimp only
    rw [hdeliver]
    exact hhears

/-- A tick leaves alone what is remembered of the triggers of elements elsewhere. -/
lemma triggers_tick (h : s.tick = (none, s')) {id : String}
    (hid : id ∉ (s.project.elementsOn s.state.page).map (·.id)) :
    Fields.get? s'.state.triggers id = Fields.get? s.state.triggers id := by
  obtain ⟨passed, after, hpass, hidle, hend⟩ := tick_cases h
  have hafter : Fields.get? after.state.triggers id = Fields.get? s.state.triggers id := by
    rw [hidle.triggers, hpass.triggers id hid, (idle_setTime s).triggers]
  rcases hend with rfl | ⟨page, hn⟩
  · exact hafter
  rcases navigateTo_cases hn with rfl | ⟨-, -, -, htriggers⟩
  · exact hafter
  · have hproject : after.project = s.project :=
      hidle.project.trans (hpass.project.trans (idle_setTime s).project)
    have hpage : after.state.page = s.state.page :=
      hidle.page.trans (hpass.page.trans (idle_setTime s).page)
    rw [htriggers, hproject, hpage, if_neg hid, hafter]

/-- **Every tick that returns obeys the law.**

**Proof sketch.** The pass is one row of visits, each of which delivers what its element fires or
lets it wait. What waits when the pass is over is delivered next, and the page is changed last. -/
theorem IsLenient.tickLaw (h : s.IsLenient project processors) (ht : s.tick = (none, s')) :
    TickLaw project processors s s' := by
  have hshown : s.shown = project.elementsOn s.state.page := by rw [shown_eq, h.project]
  obtain ⟨passed, n, dispatcher, hall, hflush, hfollow⟩ := tick_ok ht
  obtain ⟨hdispatcher, hpending⟩ := setTime_outlet s
  have htakes : Outlet.Takes s.fired s.outlet passed.outlet := by
    have hpass := visitAll_takes (by rw [hdispatcher, h.dispatcher.strict]) hall
    rwa [outlet, hdispatcher, hpending] at hpass
  have hlenient := htakes.lenient h.dispatcher.strict
  have hpass := visitAll_hands hall
  have hpage : passed.state.page = s.state.page := hpass.page.trans (idle_setTime s).page
  obtain ⟨_, hflush', halerts, -⟩ := Dispatcher.flush_hears hlenient
  cases hflush.symm.trans hflush'
  have hrequested : passed.pendingPage = s.requestedPage := htakes.page
  obtain ⟨hchange, hshows, hfollowed⟩ := followRequest_hears (halerts.strict.trans hlenient) hfollow
  simp only [hpage, hrequested] at hchange hshows
  refine ⟨hshown, fun id hid => ⟨turns_eq_nil hid _, ?_⟩, fun event hevent => ?_,
    h.dispatcher.alerts, fun position hposition => ?_, pending_tick ht, hshows, hfollowed⟩
  · rw [shown_eq] at hid
    exact triggers_tick ht hid
  · exact exists_of_mem_firedIn hevent
  · have hheard := (htakes.dispatcher.toHears.trans (halerts.trans hchange)).journal position
      (by rwa [outlet, h.dispatcher.processors])
    rw [hheard, htakes.dispatcher.pending]
    simp only [List.append_assoc]
    rfl

/-- **The order of events in a tick.** Whatever inputs a session got since its start, and whatever
faults there were, every tick that returns obeys the law. No alerts were left waiting if there was no
fault. -/
theorem tick_orders_events {document : Document} {samples : Nat → Float} {clock : Clock}
    {inputs : List Input} {faults : List (Option Fault)}
    (hs : receiveAll inputs (new project document (.new processors false) samples clock) =
      (faults, s)) (ht : s.tick = (none, s')) :
    TickLaw project processors s s' ∧
      ((∀ fault ∈ faults, fault = none) → s.dispatcher.pending = []) := by
  have hstart : (new project document (.new processors false) samples clock).IsLenient project
      processors := ⟨rfl, rfl, rfl, nofun⟩
  have hlenient := hstart.receiveAll inputs
  rw [hs] at hlenient
  refine ⟨hlenient.tickLaw ht, fun hfaults => ?_⟩
  obtain rfl : _ = s := congrArg Prod.snd hs
  exact pending_receiveAll (by rwa [hs]) rfl

/-- A tick that returns leads to its session. -/
lemma tick_of_returns (h : s.tick.1 = none) : s.tick = (none, s.tick.2) :=
  Prod.ext h rfl

/-! ## A door and a fuse -/

/-- A script that rings, asks for the page `about` and opens a link, all at once. -/
def doorScript : Graph :=
  ⟨[⟨"switch", "TOGGLE", [("value", .bool true)]⟩, ⟨"ring", "ALERT", [("value", .str "ding")]⟩,
      ⟨"go", "NAVIGATE", [("value", .str "about")]⟩,
      ⟨"open", "LINK", [("value", .str "https://example.org")]⟩],
    [⟨"switch", "ring", "in-trigger"⟩, ⟨"switch", "go", "in-trigger"⟩,
      ⟨"switch", "open", "in-trigger"⟩], .str "door", .null⟩

/-- The badge of the chime as a door to another page. -/
def door : Project :=
  { chime ["door"] with
    pages := [⟨"home", .null⟩, ⟨"about", .null⟩]
    scripts := [doorScript] }

/-- The door's session at the start. -/
def doorStart : Session :=
  new door chimeDocument (.new [.recorder] false) (fun _ => 0.5) ⟨0, 1, []⟩

/-- The door rings after it has opened the link, and it leads to its page although another one was
asked for before. -/
theorem door_orders_events :
    let s := (receiveAll [.requestNavigation (.str "attic")] doorStart).2
    let origin (node : String) : Origin := ⟨.str node, .str "door", .str "chime"⟩
    s.tick.1 = none ∧ heard s.tick.2.dispatcher.journal 0 =
      [.navigate (origin "go") (.str "about"),
        .link (origin "open") (.str "https://example.org") (.bool false),
        .alert (origin "ring") (.str "ding"), .pageChanged (.str "home") (.str "about")] ∧
      s.tick.2.state.page = .str "about" := by
  intro s origin
  have hreturns : s.tick.1 = none := by decide +kernel
  have hfired : s.fired = [.alert (origin "ring") (.str "ding"),
      .navigate (origin "go") (.str "about"),
      .link (origin "open") (.str "https://example.org") (.bool false)] := by decide +kernel
  have hrequested : s.requestedPage = .str "about" := by
    rw [requestedPage, hfired]
    rfl
  have hchanges : s.changesPage = true := by
    rw [changesPage, hrequested]
    decide
  have hs : receiveAll [.requestNavigation (.str "attic")] (new door chimeDocument
      (.new [.recorder] false) (fun _ => 0.5) ⟨0, 1, []⟩) = ([none], s) := Prod.ext rfl rfl
  have ht : s.tick = (none, s.tick.2) := tick_of_returns hreturns
  obtain ⟨hlaw, hpending⟩ := tick_orders_events hs ht
  refine ⟨hreturns, ?_, ?_⟩
  · rw [hlaw.heard 0 (by decide), hfired, hrequested, hchanges, hpending (by simp)]
    rfl
  · rw [hlaw.page, hchanges, hrequested]
    rfl

/-- A script that blows with the pointer over its element: the number that it is to display then is
too large for a double. -/
def fuseScript : Graph :=
  ⟨[⟨"over", "INTERACTION_HOVER", []⟩, ⟨"load", "NUMBER", [("value", .int (.ofNat (Nat.pow 10 400)))]⟩,
      ⟨"gate", "IF_ELSE", []⟩, ⟨"out", "OUTPUT", []⟩],
    [⟨"over", "gate", "in-condition"⟩, ⟨"load", "gate", "in-true"⟩,
      ⟨"gate", "out", "in-content"⟩], .str "blow", .null⟩

/-- A badge that rings, followed by one that blows. -/
def fuse : Project :=
  { chime [] with
    elements := [{ chimeElement ["ring"] with id := "bell" },
      { chimeElement ["blow"] with id := "fuse" }]
    scripts := [chimeScript "ring" "ring" true, fuseScript] }

/-- The badges as they are at first. -/
def fuseDocument : Document :=
  ⟨[("bell", ⟨"", [], true, 0, 0⟩), ("fuse", ⟨"", [], true, 0, 0⟩)], [.str "home"]⟩

/-- The inputs of a tick with the pointer over the fuse. -/
def blown : List Input :=
  [.pointerEnter (.str "fuse"), .tick, .pointerLeave (.str "fuse")]

/-- **A tick delivers alerts that it does not fire**, if a tick before it has fired them and then
ended in a fault. -/
theorem alert_outlives_fault :
    ¬∀ (project : Project) (processors : List Processor) (document : Document)
      (samples : Nat → Float) (clock : Clock) (inputs : List Input) (s s' : Session),
      (receiveAll inputs (new project document (.new processors false) samples clock)).2 = s →
      s.tick = (none, s') → ∀ position < processors.length,
        heard s'.dispatcher.journal position = heard s.dispatcher.journal position ++
          s.fired.filter (fun event => !event.isAlert) ++ s.fired.filter Event.isAlert ++
          if s.changesPage then [.pageChanged s.state.page s.requestedPage] else [] := by
  intro hall
  let start := new fuse fuseDocument (.new [.recorder] false) (fun _ => 0.5) ⟨0, 1, []⟩
  let s := (receiveAll blown start).2
  have hreturns : s.tick.1 = none := by decide +kernel
  have hbefore : heard s.dispatcher.journal 0 = [] := by decide +kernel
  have hfired : s.fired = [] := by decide +kernel
  have hstays : s.changesPage = false := by decide +kernel
  have hafter : heard s.tick.2.dispatcher.journal 0 =
      [.alert ⟨.str "ring", .str "ring", .str "bell"⟩ (.str "ding")] := by decide +kernel
  have ht : s.tick = (none, s.tick.2) := tick_of_returns hreturns
  have hheard := hall fuse [.recorder] fuseDocument (fun _ => 0.5) ⟨0, 1, []⟩ blown s s.tick.2 rfl
    ht 0 (by decide)
  rw [hbefore, hfired, hstays, hafter] at hheard
  cases hheard

end Session

end DesignGraph
