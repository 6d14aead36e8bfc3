import DesignGraph.Action.Event
import DesignGraph.Fault
/-!
# Dispatching events

A dispatcher hands events to processors, in order. A processor may refuse an event. A lenient
dispatcher notes the refusal and goes on, a strict one stops and reports it. Alerts wait until
they are flushed; every other action is delivered at once.

## Main definitions

* `DesignGraph.Processor` — who hears of events: `recorder`, `handlers`, `browser`, `silent`.
* `DesignGraph.Call` — one call of a processor; the journal of a dispatcher holds all of them.
* `DesignGraph.Dispatcher` — processors, waiting alerts and journal.
* `DesignGraph.Dispatcher.deliver`, `DesignGraph.Dispatcher.emit`,
  `DesignGraph.Dispatcher.flush`, `DesignGraph.Dispatcher.shutdown` — its operations.
-/

namespace DesignGraph

/-- What a processor does with an event that it accepts. -/
inductive Reaction where
  /-- It keeps the event. -/
  | recorded (event : Event)
  /-- It hands the event to one of its handlers. -/
  | handled (handler : String) (event : Event)
  /-- It opens an address: reusing the current window (0) or in a new tab (2). -/
  | opened (url : Value) (mode : Nat)
  /-- It closes down. -/
  | closed
  deriving DecidableEq, Repr

/-- Who hears of events. What a processor refuses may depend on the events it heard of before. -/
structure Processor where
  /-- The name in warnings. -/
  label : String
  /-- Whether the events can be asked for afterwards. -/
  keepsEvents : Bool
  /-- What is done with an event. -/
  react : Event → Option Reaction
  /-- What is done on shutdown. -/
  close : Option Reaction
  /-- The message with which an event is refused, given the events heard of before. -/
  refusal : List Event → Event → Option String
  /-- The message with which the shutdown is refused, given the events heard of. -/
  closeRefusal : List Event → Option String

namespace Processor

/-- A processor that accepts everything and does nothing. -/
def silent : Processor where
  label := ""
  keepsEvents := false
  react _ := none
  close := none
  refusal _ _ := none
  closeRefusal _ := none

/-- Keeps every event. -/
def recorder : Processor :=
  { silent with
    keepsEvents := true
    react := fun event => some (.recorded event)
    close := some .closed }

/-- The handler for events of a class; other events are ignored. -/
def handlerOf? : Event → Option String
  | .navigate .. => some "on_navigate"
  | .link .. => some "on_link"
  | .alert .. => some "on_alert"
  | .pageChanged .. => some "on_page_changed"
  | .action _ | .plain => none

/-- Hands every event to the handler for its class, if it is one of the given ones. -/
def handlers (names : List String) : Processor :=
  { silent with
    react := fun event =>
      ((handlerOf? event).filter names.contains).map fun handler => .handled handler event
    close := some .closed }

/-- Opens the address of every link. -/
def browser : Processor :=
  { silent with
    react := fun event =>
      match event with
      | .link _ url newTab => some (.opened url (if newTab.isFilled then 2 else 0))
      | _ => none }

end Processor

/-- What a processor was called for. -/
inductive Occasion where
  | event (event : Event)
  | shutdown
  /-- The kept events were dropped. -/
  | cleared
  deriving DecidableEq, Repr

/-- One call of the processor at a position, and the message if it refused. -/
structure Call where
  position : Nat
  occasion : Occasion
  refusal : Option String
  deriving DecidableEq, Repr

/-- The events that the processor at `position` has heard of. -/
def heard (journal : List Call) (position : Nat) : List Event :=
  journal.filterMap fun call =>
    match call.occasion with
    | .event event => if call.position = position then some event else none
    | _ => none

/-- The events that the processor at `position` holds: those since its last clearing. -/
def held (journal : List Call) (position : Nat) : List Event :=
  journal.foldl (fun events call =>
    if call.position = position then
      match call.occasion with
      | .event event => events ++ [event]
      | .cleared => []
      | .shutdown => events
    else events) []

/-- Processors with the alerts that wait for them and the journal of all calls so far. -/
structure Dispatcher where
  strict : Bool
  processors : List Processor
  pending : List Event
  journal : List Call

namespace Dispatcher

/-- A dispatcher without history. -/
def new (processors : List Processor) (strict : Bool) : Dispatcher :=
  ⟨strict, processors, [], []⟩

/-- Offers an event to the processors from `position` on. A strict round ends with the first
refusal. -/
def offer (strict : Bool) (event : Event) :
    Nat → List Processor → List Call → Option Fault × List Call
  | _, [], journal => (none, journal)
  | position, processor :: rest, journal =>
    let refusal := processor.refusal (heard journal position) event
    let journal := journal ++ [⟨position, .event event, refusal⟩]
    match refusal with
    | some message =>
      if strict then (some (.refused message), journal)
      else offer strict event (position + 1) rest journal
    | none => offer strict event (position + 1) rest journal

/-- Delivers an event to every processor. -/
def deliver (event : Event) (d : Dispatcher) : Option Fault × Dispatcher :=
  let (fault, journal) := offer d.strict event 0 d.processors d.journal
  (fault, { d with journal := journal })

/-- Takes an action's event, stamped with the element of the given scope: alerts wait, every
other one is delivered. An event without origin is none of an action. -/
def emit (scope : Value) (event : Event) (d : Dispatcher) : Option Fault × Dispatcher :=
  if event.origin?.isNone then (some .noMember, d)
  else
    let event := event.stamp scope
    if event.isAlert then (none, { d with pending := d.pending ++ [event] })
    else d.deliver event

/-- Delivers events one after the other, up to the first fault. -/
def deliverAll : List Event → Dispatcher → Option Fault × Dispatcher
  | [], d => (none, d)
  | event :: rest, d =>
    match d.deliver event with
    | (some fault, d) => (some fault, d)
    | (none, d) => deliverAll rest d

/-- Delivers the waiting alerts; none of them waits afterwards, whatever happens. -/
def flush (d : Dispatcher) : Except Fault Nat × Dispatcher :=
  match deliverAll d.pending { d with pending := [] } with
  | (some fault, d') => (.error fault, d')
  | (none, d') => (.ok d.pending.length, d')

/-- Calls the shutdown of the processors from `position` on, and gives the first refusal. -/
def closeAll : Nat → List Processor → List Call → Option String × List Call
  | _, [], journal => (none, journal)
  | position, processor :: rest, journal =>
    let refusal := processor.closeRefusal (heard journal position)
    let (later, journal) :=
      closeAll (position + 1) rest (journal ++ [⟨position, .shutdown, refusal⟩])
    (refusal.or later, journal)

/-- Shuts every processor down; a strict dispatcher reports the first refusal afterwards. -/
def shutdown (d : Dispatcher) : Option Fault × Dispatcher :=
  let (refusal, journal) := closeAll 0 d.processors d.journal
  (if d.strict then refusal.map .refused else none, { d with journal := journal })

/-- Adds a processor after the others. -/
def add (processor : Processor) (d : Dispatcher) : Dispatcher :=
  { d with processors := d.processors ++ [processor] }

/-- The number of kept events of a class at a position. -/
def count (position : Nat) (name : String) (d : Dispatcher) : Except Fault Nat :=
  match d.processors[position]? with
  | some processor =>
    if processor.keepsEvents && Event.classNames.contains name then
      .ok ((held d.journal position).countP (·.isA name))
    else .error .noMember
  | none => .error .noMember

/-- Drops the kept events at a position. -/
def clear (position : Nat) (d : Dispatcher) : Option Fault × Dispatcher :=
  match d.processors[position]? with
  | some processor =>
    if processor.keepsEvents then
      (none, { d with journal := d.journal ++ [⟨position, .cleared, none⟩] })
    else (some .noMember, d)
  | none => (some .noMember, d)

/-- What the processor of a call did, if it did not refuse. -/
def reaction (d : Dispatcher) (call : Call) : Option Reaction :=
  match call.refusal, d.processors[call.position]?, call.occasion with
  | none, some processor, .event event => processor.react event
  | none, some processor, .shutdown => processor.close
  | _, _, _ => none

/-- The warning about a call that was refused; a strict dispatcher reports instead. -/
def warning (d : Dispatcher) (call : Call) : Option String :=
  match call.refusal, d.processors[call.position]?, d.strict with
  | some _, some processor, false =>
    let start := "EventProcessor " ++ processor.label ++ " failed "
    match call.occasion with
    | .event event => some (start ++ "on " ++ event.className)
    | _ => some (start ++ "during shutdown")
  | _, _, _ => none

end Dispatcher

end DesignGraph
