import DesignGraph.Action.Dispatcher
/-!
# Views of a dispatcher

A dispatcher is handed on as views, each of which names the element that its events come from. A
view delivers to the processors of its dispatcher and shares the alerts that wait there; a view of
a view differs from it in the element alone.

## Main definitions

* `DesignGraph.View` — a dispatcher as it was handed on.
* `DesignGraph.Use` — what is done with a view.
* `DesignGraph.Dispatcher.serve`, `DesignGraph.Dispatcher.serveAll` — what comes of uses.
-/

namespace DesignGraph

/-- A view of a dispatcher: the dispatcher itself, or a view that names an element. -/
inductive View where
  | whole
  | scoped (view : View) (element : Value)
  deriving Repr

/-- The element that a view names for events that name none; the dispatcher itself names none
either. -/
def View.element : View → Value
  | .whole => .null
  | .scoped _ element => element

/-- What is done with a view of a dispatcher. -/
inductive Use where
  /-- A view of it is made that names an element. -/
  | scope (view : View) (element : Value)
  /-- An event is emitted through it. -/
  | emit (view : View) (event : Event)
  /-- The waiting alerts are delivered. -/
  | flush (view : View)
  deriving Repr

/-- What comes back from a use. -/
inductive Answer where
  | view (view : View)
  /-- An event was taken, or there is a fault. -/
  | taken (fault : Option Fault)
  /-- So many alerts were delivered, or there is a fault. -/
  | flushed (count : Except Fault Nat)
  deriving Repr

namespace Dispatcher

/-- One use of a view. -/
def serve (d : Dispatcher) : Use → Answer × Dispatcher
  | .scope view element => (.view (.scoped view element), d)
  | .emit view event =>
    let (fault, d') := d.emit view.element event
    (.taken fault, d')
  | .flush _ =>
    let (count, d') := d.flush
    (.flushed count, d')

/-- Uses one after the other, through whichever views; what was refused does not end them. -/
def serveAll : List Use → Dispatcher → List Answer × Dispatcher
  | [], d => ([], d)
  | use :: rest, d =>
    let (answer, d') := d.serve use
    let (answers, d'') := serveAll rest d'
    (answer :: answers, d'')

end Dispatcher

end DesignGraph
