import DesignGraph.Fault
import DesignGraph.Value.Basic
/-!
# Events

What happens on the outside when a design runs: a page is asked for, a link opens, an alert is
shown, the displayed page changes.

## Main definitions

* `DesignGraph.Action` — what an action node does when it fires.
* `DesignGraph.Origin` — where an event comes from: node, graph and element.
* `DesignGraph.Event` — an event, with `Event.className`, `Event.payload` and `Event.isA`.
* `DesignGraph.Event.stamp` — an event of an element's graphs names that element.
* `DesignGraph.Event.ofFields` — an event from the name of its class and its fields.
-/

namespace DesignGraph

/-- What an action node does when it fires. -/
inductive Action where
  | navigate (page : Value)
  | link (url : String) (newTab : Bool)
  | alert (message : String)
  deriving DecidableEq, Repr

/-- Where an action comes from: the node that fired, the library id of its graph and the element
that was evaluated; null where unknown. -/
structure Origin where
  node : Value
  graph : Value
  element : Value
  deriving DecidableEq, Repr

/-- An event. -/
inductive Event where
  /-- A page is asked for. -/
  | navigate (origin : Origin) (page : Value)
  /-- A link is opened, in a new tab or in the current one. -/
  | link (origin : Origin) (url newTab : Value)
  /-- A message is shown. -/
  | alert (origin : Origin) (message : Value)
  /-- Some other action. -/
  | action (origin : Origin)
  /-- The displayed page has changed. -/
  | pageChanged (previous page : Value)
  /-- An event with nothing to tell. -/
  | plain
  deriving DecidableEq, Repr

namespace Event

/-- The event of an action. -/
def ofAction (origin : Origin) : Action → Event
  | .navigate page => .navigate origin page
  | .link url newTab => .link origin (.str url) (.bool newTab)
  | .alert message => .alert origin (.str message)

/-- The name of an event's class. -/
def className : Event → String
  | .navigate .. => "NavigateEvent"
  | .link .. => "LinkEvent"
  | .alert .. => "AlertEvent"
  | .action .. => "ActionEvent"
  | .pageChanged .. => "PageChangedEvent"
  | .plain => "BaseEvent"

/-- The classes of events, the general ones included. -/
def classNames : List String :=
  ["BaseEvent", "ActionEvent", "NavigateEvent", "LinkEvent", "AlertEvent", "PageChangedEvent"]

/-- Where an action's event comes from; other events have no origin. -/
def origin? : Event → Option Origin
  | .navigate origin _ | .link origin _ _ | .alert origin _ | .action origin => some origin
  | .pageChanged .. | .plain => none

/-- Whether an event belongs to a class or to one of its special cases: every event is a base
event, and every event with an origin is an action event. -/
def isA (event : Event) (name : String) : Bool :=
  event.className == name || name == "BaseEvent" || name == "ActionEvent" && event.origin?.isSome

/-- Whether an event is an alert. -/
def isAlert : Event → Bool
  | .alert .. => true
  | _ => false

/-- The kind of node that fires events of this class, empty for none. -/
def kindName : Event → String
  | .navigate .. => "NAVIGATE"
  | .link .. => "LINK"
  | .alert .. => "ALERT"
  | _ => ""

/-- What an event tells beside its origin. -/
def payload : Event → Fields
  | .navigate _ page => [("page_id", page)]
  | .link _ url newTab => [("url", url), ("new_tab", newTab)]
  | .alert _ message => [("message", message)]
  | _ => []

/-- The event with another origin. -/
def withOrigin (origin : Origin) : Event → Event
  | .navigate _ page => .navigate origin page
  | .link _ url newTab => .link origin url newTab
  | .alert _ message => .alert origin message
  | .action _ => .action origin
  | event => event

/-- Names the element that an event comes from, unless the event names one already or none is
given. -/
def stamp (element : Value) (event : Event) : Event :=
  match event.origin? with
  | some origin =>
    if element ≠ .null ∧ origin.element = .null then
      event.withOrigin { origin with element := element }
    else event
  | none => event

/-! ## Events by name -/

/-- The fields that tell where an action comes from. -/
def originFields : List String :=
  ["timestamp", "node_id", "graph_id", "element_id"]

/-- The value of a field, or its default where the field is left out. -/
def fieldOr (fields : Fields) (key : String) (default : Value) : Value :=
  (Fields.get? fields key).getD default

/-- The event of a class with the given fields; fields that are left out are empty or null. An
unknown class and a field that the class does not have are faults. -/
def ofFields (name : String) (fields : Fields) : Except Fault Event :=
  let origin : Origin :=
    ⟨fieldOr fields "node_id" (.str ""), Fields.get fields "graph_id",
      Fields.get fields "element_id"⟩
  let checked (known : List String) (event : Event) : Except Fault Event :=
    if (Fields.keys fields).all known.contains then .ok event else .error .wrongKind
  match name with
  | "NavigateEvent" =>
    checked (originFields ++ ["page_id"])
      (.navigate origin (fieldOr fields "page_id" (.str "")))
  | "LinkEvent" =>
    checked (originFields ++ ["url", "new_tab"])
      (.link origin (fieldOr fields "url" (.str "")) (fieldOr fields "new_tab" (.bool false)))
  | "AlertEvent" =>
    checked (originFields ++ ["message"])
      (.alert origin (fieldOr fields "message" (.str "")))
  | "ActionEvent" => checked originFields (.action origin)
  | "PageChangedEvent" =>
    checked ["timestamp", "previous_page_id", "page_id"]
      (.pageChanged (Fields.get fields "previous_page_id")
        (fieldOr fields "page_id" (.str "")))
  | "BaseEvent" => checked ["timestamp"] .plain
  | _ => .error .noMember

end Event

end DesignGraph
