import DesignGraph.Value.Equality
/-!
# Triggers

An action fires when its trigger rises to true: it is exactly true now and was not exactly true
when it was last looked at. The last value of every trigger is remembered, whether or not the
action fired.

## Main definitions

* `DesignGraph.Trigger.rises` — the test for a rising edge.
* `DesignGraph.Trigger.step` — one look at the trigger of a node.
-/

namespace DesignGraph.Trigger

/-- Whether a trigger that was last seen as `previous` rises to true with `value`. -/
def rises (previous : Option Value) (value : Value) : Bool :=
  value = .bool true && previous ≠ some (.bool true)

/-- Looks at the trigger of a node: whether it rises, and the memory with its new value. -/
def step (memory : Fields) (node : String) (value : Value) : Bool × Fields :=
  (rises (Fields.get? memory node) value, Fields.put node value memory)

/-- The same with a memory under keys of any kind; a list or an object is no key. -/
def stepAt (memory : Table Value) (key value : Value) : Except Fault (Bool × Table Value) := do
  let key ← key.asKey
  return (rises (memory.get? key) value, memory.put key value)

end DesignGraph.Trigger
