import DesignGraph.Live.State
import DesignGraph.Action.Dispatcher
/-!
# Sessions

A design that runs. Every tick composes the elements of the shown page and brings the document in
line with the result: texts are written only when they differ, followed style entries whenever
they are computed, and an animation is restarted only when it changes. Alerts are delivered after
the pass, and a page that was asked for is shown at the end of the tick.

An operation that fails leaves everything as it was when it failed.

## Main definitions

* `DesignGraph.Session` — a design that runs, with its document, state, dispatcher and clock.
* `DesignGraph.Session.tick` — one pass over the shown page.
* `DesignGraph.Session.navigateTo` — shows another page.
* `DesignGraph.Session.run` — ticks at a given rate.
* `DesignGraph.Session.close` — shuts the event processors down, once.
* `DesignGraph.Input`, `DesignGraph.Session.receive` — all operations under one type.
-/

namespace DesignGraph

/-- A clock that moves on by a fixed step with every reading, and by what is slept. -/
structure Clock where
  now : Float
  step : Float
  /-- The waits so far. -/
  slept : List Float

/-- A design that runs. -/
structure Session where
  project : Project
  /-- The random samples in the order in which they are drawn. -/
  samples : Nat → Float
  drawn : Nat
  document : Document
  state : LiveState
  dispatcher : Dispatcher
  /-- The page that was asked for, null for none. -/
  pendingPage : Value
  /-- The time of the start, once it is fixed. -/
  start : Option Float
  /-- The number of completed ticks. -/
  frame : Nat
  running : Bool
  closed : Bool
  clock : Clock

/-- Where the actions of a session go: a page that is asked for is noted, and everything is handed
to the dispatcher. -/
structure Outlet where
  pendingPage : Value
  dispatcher : Dispatcher

/-- Takes the event of an action of the given element. -/
def Outlet.post (element : String) (event : Event) (outlet : Outlet) : Option Fault × Outlet :=
  let pendingPage := match event with
    | .navigate _ page => page
    | _ => outlet.pendingPage
  let (fault, dispatcher) := outlet.dispatcher.emit (.str element) event
  (fault, ⟨pendingPage, dispatcher⟩)

namespace Session

/-- A session that has not started. -/
def new (project : Project) (document : Document) (dispatcher : Dispatcher)
    (samples : Nat → Float) (clock : Clock) : Session where
  project := project
  samples := samples
  drawn := 0
  document := document
  state := .initial project.firstPage
  dispatcher := dispatcher
  pendingPage := .null
  start := none
  frame := 0
  running := false
  closed := false
  clock := clock

/-- Reads the clock. -/
def readClock (s : Session) : Float × Session :=
  (s.clock.now, { s with clock := { s.clock with now := s.clock.now + s.clock.step } })

/-- Fixes the start and tracks the animations that play already. -/
def mount (s : Session) : Session :=
  let (now, s) := s.readClock
  { s with
    start := some now
    state := s.project.elements.foldl (LiveState.adopt s.document) s.state }

/-! ## Navigation -/

/-- Asks for a page at the end of the current tick; null takes the request back. -/
def requestNavigation (page : Value) (s : Session) : Session :=
  { s with pendingPage := page }

/-- Restarts the animation of an element that comes to be shown. -/
def restart (s : Session) (element : Element) : Session :=
  match s.document.element? element.id with
  | none => s
  | some live =>
    if LiveElement.plays live.animation then
      { s with
        document := s.document.put element.id (live.play live.animation)
        state := { s.state with
          animations := Fields.put element.id live.animation s.state.animations } }
    else s

/-- The elements of the shown page are forgotten and the page is hidden. -/
def leavePage (s : Session) : Session :=
  { s with
    state := (s.project.elementsOn s.state.page).foldl (fun st e => st.forget e.id) s.state
    document := if s.state.page = .null then s.document else s.document.hidePage s.state.page }

/-- Shows another page now. The elements of the page that is left lose hover, click, triggers and
animation; animations on the new page play from their start. -/
def navigateTo (page : Value) (s : Session) : Option Fault × Session :=
  let previous := s.state.page
  if previous.equals page then (none, s)
  else
    let s := s.leavePage
    match s.document.showPage page with
    | .error fault => (some fault, s)
    | .ok document =>
      let s := { s with document := document, state := { s.state with page := page } }
      let s := (s.project.elementsOn page).foldl restart s
      let (fault, dispatcher) := s.dispatcher.deliver (.pageChanged previous page)
      (fault, { s with dispatcher := dispatcher })

/-! ## Ticks -/

/-- Shows an element in a new form. -/
def put (id : String) (live : LiveElement) (s : Session) : Session :=
  { s with document := s.document.put id live }

/-- Shows the computed animation of an element, unless it is the one that is tracked. -/
def applyAnimation (id : String) (desired : Value) (live : LiveElement) (s : Session) :
    Option Fault × Session :=
  if (Fields.get s.state.animations id).equals desired then (none, s.put id live)
  else
    let s := { s with
      state := { s.state with animations := Fields.put id desired s.state.animations } }
    match live.animate desired with
    | .ok live => (none, s.put id live)
    | .error fault => (some fault, s.put id live)

/-- Brings an element in line with its composition. -/
def apply (element : Element) (live : LiveElement) (composition : Composition) (s : Session) :
    Option Fault × Session :=
  let computed := composition.computed
  let live :=
    if computed.content.isSome && element.kind?.any ElementKind.showsText then
      live.setText composition.content
    else live
  match live.applyStyles computed.style LiveElement.followedKeys with
  | (some fault, live) => (some fault, s.put element.id live)
  | (none, live) =>
    match Fields.get? computed.style "animation" with
    | none => (none, s.put element.id live)
    | some desired => s.applyAnimation element.id desired live

/-- The setting in which an element is composed. -/
def setting (s : Session) (element : Element) : Composition.Setting Outlet where
  project := s.project
  element := element
  context := s.state.context element.id
  samples := s.samples
  remembers := true
  post := Outlet.post element.id

/-- Where the composition of an element starts. -/
def progress (s : Session) (element : Element) : Composition.Progress Outlet :=
  ⟨s.state.triggersOf element.id, s.drawn, ⟨s.pendingPage, s.dispatcher⟩⟩

/-- Takes over what a composition has changed. -/
def absorb (id : String) (p : Composition.Progress Outlet) (s : Session) : Session :=
  { s with
    drawn := p.drawn
    pendingPage := p.outlet.pendingPage
    dispatcher := p.outlet.dispatcher
    state := { s.state with triggers := Fields.put id p.triggers s.state.triggers } }

/-- Composes an element that is on the screen and brings it in line with the result. -/
def visit (element : Element) (s : Session) : Option Fault × Session :=
  match s.document.element? element.id with
  | none => (none, s)
  | some live =>
    if !live.mounted then (none, s)
    else
      match Composition.compose (s.setting element) (s.progress element) with
      | (.error fault, p) => (some fault, s.absorb element.id p)
      | (.ok composition, p) =>
        let s := s.absorb element.id p
        if composition.dynamic then s.apply element live composition else (none, s)

/-- Visits elements one after the other, up to the first fault. -/
def visitAll : List Element → Session → Option Fault × Session
  | [], s => (none, s)
  | element :: rest, s =>
    match s.visit element with
    | (some fault, s) => (some fault, s)
    | (none, s) => visitAll rest s

/-- Reads the clock and sets the time; the first reading fixes the start. -/
def setTime (s : Session) : Session :=
  let s := if s.start.isNone then s.mount else s
  let (now, s) := s.readClock
  { s with state := { s.state with time := now - s.start.getD now } }

/-- Delivers the waiting alerts. -/
def flush (s : Session) : Option Fault × Session :=
  match s.dispatcher.flush with
  | (.error fault, dispatcher) => (some fault, { s with dispatcher := dispatcher })
  | (.ok _, dispatcher) => (none, { s with dispatcher := dispatcher })

/-- Shows the page that was asked for, if any. -/
def followRequest (s : Session) : Option Fault × Session :=
  if s.pendingPage = .null then (none, s)
  else { s with pendingPage := .null }.navigateTo s.pendingPage

/-- One pass over the shown page. -/
def tick (s : Session) : Option Fault × Session :=
  let s := s.setTime
  match visitAll (s.project.elementsOn s.state.page) s with
  | (some fault, s) => (some fault, s)
  | (none, s) =>
    match s.flush with
    | (some fault, s) => (some fault, s)
    | (none, s) => { s with frame := s.frame + 1 }.followRequest

/-! ## Running -/

/-- Waits; from the frame `stopAt` on a wait ends the run. -/
def sleep (seconds : Float) (stopAt : Option Int) (s : Session) : Session :=
  { s with
    clock := { s.clock with
      now := s.clock.now + seconds, slept := s.clock.slept ++ [seconds] }
    running := s.running && !stopAt.any fun (frame : Int) => decide (frame ≤ s.frame) }

/-- Ticks while the session runs, at most `limit` times, waiting after each tick for what is left
of the interval; gives the number of ticks. -/
def runFrames (interval : Float) (stopAt : Option Int) :
    Nat → Nat → Session → Except Fault Nat × Session
  | 0, count, s => (.ok count, s)
  | limit + 1, count, s =>
    if !s.running then (.ok count, s)
    else
      let (started, s) := s.readClock
      match s.tick with
      | (some fault, s) => (.error fault, s)
      | (none, s) =>
        let (now, s) := s.readClock
        let remaining := interval - (now - started)
        let s := if remaining > 0 then s.sleep remaining stopAt else s
        runFrames interval stopAt limit (count + 1) s

/-- How many ticks a run without a number of frames may take beyond the frame at which it is to
stop: only a tick that leaves time to wait ends the run. -/
def patience : Nat := 10000

/-- The number of ticks that a run takes at most: the given one, else as many as lead to `stopAt`
and some more. -/
def frameLimit (frames stopAt : Option Int) (s : Session) : Nat :=
  match frames with
  | some frames => frames.toNat
  | none => (stopAt.getD 0 - s.frame).toNat + patience

/-- Runs for a number of frames; without one until a wait at the frame `stopAt` or later, or until
a fault. -/
def run (frames : Option Int) (fps : Number) (stopAt : Option Int) (s : Session) :
    Except Fault Nat × Session :=
  match Number.dividedBy (.float 1) fps with
  | .error fault => (.error fault, s)
  | .ok interval =>
    let (result, s) :=
      runFrames interval stopAt (s.frameLimit frames stopAt) 0 { s with running := true }
    (result, { s with running := false })

/-- Ends the run after the current tick. -/
def stop (s : Session) : Session :=
  { s with running := false }

/-- Ends the run and, the first time, shuts the event processors down. -/
def close (s : Session) : Option Fault × Session :=
  let s := s.stop
  if s.closed then (none, s)
  else
    let (fault, dispatcher) := s.dispatcher.shutdown
    (fault, { s with closed := true, dispatcher := dispatcher })

end Session

/-! ## Inputs -/

/-- What can happen to a session. -/
inductive Input where
  | mount
  | tick
  | run (frames : Option Int) (fps : Number) (stopAt : Option Int)
  | stop
  | close
  | pointerEnter (id : Value)
  | pointerLeave (id : Value)
  | click (id : Value)
  | requestNavigation (page : Value)
  | navigateTo (page : Value)
  | advance (seconds : Float)
  deriving Repr

namespace Session

/-- Changes the state, unless that is a fault. -/
def setState (s : Session) : Except Fault LiveState → Option Fault × Session
  | .ok state => (none, { s with state := state })
  | .error fault => (some fault, s)

/-- Takes an input. -/
def receive (input : Input) (s : Session) : Option Fault × Session :=
  match input with
  | .mount => (none, s.mount)
  | .tick => s.tick
  | .run frames fps stopAt =>
    match s.run frames fps stopAt with
    | (.ok _, s) => (none, s)
    | (.error fault, s) => (some fault, s)
  | .stop => (none, s.stop)
  | .close => s.close
  | .pointerEnter id => s.setState (s.state.hover id true)
  | .pointerLeave id => s.setState (s.state.hover id false)
  | .click id => s.setState (s.state.click id)
  | .requestNavigation page => (none, s.requestNavigation page)
  | .navigateTo page => s.navigateTo page
  | .advance seconds => (none, { s with clock := { s.clock with now := s.clock.now + seconds } })

/-- Takes inputs one after the other, whatever faults there are, and gives what became of each. -/
def receiveAll : List Input → Session → List (Option Fault) × Session
  | [], s => ([], s)
  | input :: rest, s =>
    let (fault, s) := s.receive input
    let (faults, s) := receiveAll rest s
    (fault :: faults, s)

end Session

end DesignGraph
