import DesignGraph.Action.Event
import DesignGraph.Fault
/-!
# Programs of nodes

What a node computes is a program: a tree of requests, each followed by what to do with the
answer. A program fixes which sockets are read, in which order and under which conditions, and
says nothing about how requests are answered; that is the work of whoever runs it.

## Main definitions

* `DesignGraph.Signal` — a value on a wire together with the node that made it.
* `DesignGraph.Request`, `DesignGraph.Request.Answer` — what a program can ask for.
* `DesignGraph.Program` — a program; programs form a monad.
* `DesignGraph.Outcome` — the result of a node's program.
-/

namespace DesignGraph

/-- A value on a wire. Lists and objects are the same thing exactly if the same node made them,
which is what `maker` keeps track of. -/
structure Signal where
  value : Value
  maker : String
  deriving DecidableEq, Repr

/-- What the program of a node can ask for. -/
inductive Request where
  /-- The signal on an input socket. -/
  | read (socket : String)
  /-- Whether an input socket is wired. -/
  | isWired (socket : String)
  /-- Whether the pointer is over the element. -/
  | hovered
  /-- Whether the element's click toggle is on. -/
  | clicked
  /-- The seconds since the start. -/
  | time
  /-- A random sample. -/
  | sample
  /-- Whether the trigger rises to true; records its value. -/
  | edge (trigger : Value)
  /-- Fires an action. -/
  | fire (action : Action)
  deriving DecidableEq, Repr

/-- What a request is answered with. -/
@[reducible] def Request.Answer : Request → Type
  | .read _ => Signal
  | .isWired _ | .hovered | .clicked | .edge _ => Bool
  | .time => Value
  | .sample => Float
  | .fire _ => Unit

/-- A tree of requests that ends in results or faults. -/
inductive Program (α : Type) where
  | done (a : α)
  | fail (fault : Fault)
  | ask (request : Request) (next : request.Answer → Program α)

namespace Program

/-- Runs a program and goes on with its result. -/
def bind {α β : Type} : Program α → (α → Program β) → Program β
  | .done a, f => f a
  | .fail fault, _ => .fail fault
  | .ask request next, f => .ask request fun answer => (next answer).bind f

instance : Monad Program where
  pure := .done
  bind := .bind

/-- A result that may be a fault, as a program without requests. -/
def ofExcept {α : Type} : Except Fault α → Program α
  | .ok a => .done a
  | .error fault => .fail fault

/-- The program of a single request. -/
def request (r : Request) : Program r.Answer :=
  .ask r .done

end Program

/-- The result of a node's program: a value made by the node itself, or the signal of one of its
inputs handed on. -/
inductive Outcome where
  | made (value : Value)
  | passed (signal : Signal)
  deriving DecidableEq, Repr

/-- The signal that leaves the node `id` with the given outcome. -/
def Outcome.signal (id : String) : Outcome → Signal
  | .made value => ⟨value, id⟩
  | .passed signal => signal

end DesignGraph
