import DesignGraph.Live.Document
/-!
# The state of a session

What a running design remembers from one tick to the next: the shown page, the time, hovers and
clicks, and for every element the last values of its triggers and the animation that it plays.

## Main definitions

* `DesignGraph.LiveState` — the state.
* `DesignGraph.LiveState.context` — what the graphs of an element see of it.
* `DesignGraph.LiveState.forget` — an element leaves the shown page.
* `DesignGraph.LiveState.adopt` — an animation that plays from the start is tracked.
-/

namespace DesignGraph

/-- What a session remembers. -/
structure LiveState where
  /-- The shown page, null for none. -/
  page : Value
  /-- The seconds since the start. -/
  time : Float
  /-- Whether the pointer is over an element. -/
  hovers : Table Bool
  /-- Whether the click toggle of an element is on. -/
  clicks : Table Bool
  /-- The last trigger values of an element's action nodes. -/
  triggers : List (String × Fields)
  /-- The animation that an element was last made to play. -/
  animations : Fields

namespace LiveState

/-- The state at the start, with the given page. -/
def initial (page : Value) : LiveState :=
  ⟨page, 0, [], [], [], []⟩

/-- What the graphs of an element see. -/
def context (state : LiveState) (id : String) : Context :=
  ⟨(state.hovers.get? (.str id)).getD false, (state.clicks.get? (.str id)).getD false,
    .float state.time⟩

/-- The last trigger values of an element's action nodes. -/
def triggersOf (state : LiveState) (id : String) : Fields :=
  (Fields.get? state.triggers id).getD []

/-- Hovers and clicks are off, triggers and animation are forgotten. -/
def forget (state : LiveState) (id : String) : LiveState :=
  { state with
    hovers := state.hovers.put (.str id) false
    clicks := state.clicks.put (.str id) false
    triggers := Fields.erase id state.triggers
    animations := Fields.erase id state.animations }

/-- Tracks the animation of an element that plays one. -/
def adopt (document : Document) (state : LiveState) (element : Element) : LiveState :=
  match document.element? element.id with
  | none => state
  | some live =>
    if LiveElement.plays live.animation && !LiveElement.isBlankText live.animation then
      { state with animations := Fields.put element.id live.animation state.animations }
    else state

/-- Puts the pointer over an element, or off it. -/
def hover (id : Value) (isOver : Bool) (state : LiveState) : Except Fault LiveState := do
  return { state with hovers := state.hovers.put (← id.asKey) isOver }

/-- Toggles the click state of an element. -/
def click (id : Value) (state : LiveState) : Except Fault LiveState := do
  let id ← id.asKey
  return { state with clicks := state.clicks.put id (!(state.clicks.get? id).getD false) }

end LiveState

end DesignGraph
