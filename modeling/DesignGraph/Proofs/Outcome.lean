import DesignGraph.Fault
import Mathlib.Tactic.Common
/-!
# Sorts of faults

An operation of this library is a sequence of steps that stops at the first fault. So the faults
of an operation are those of its steps, and to bound them it is enough to bound the faults of each
step, in the situation in which the steps before it leave it.

## Main definitions

* `DesignGraph.FailsWith` — a computation returns, or fails with a fault of a given sort.

## Main results

* `DesignGraph.bind_eq_ok` — a sequence of steps returns as its steps do.
* `DesignGraph.FailsWith.bind`, `DesignGraph.FailsWith.mapM` — a sequence of steps fails as its
  steps do.
-/

set_option relaxedAutoImplicit false
set_option autoImplicit false

namespace DesignGraph

variable {α β : Type} {P Q : Fault → Prop}

/-- A sequence of steps returns if its steps do. -/
lemma bind_eq_ok {x : Except Fault α} {f : α → Except Fault β} {b : β} :
    x >>= f = .ok b ↔ ∃ a, x = .ok a ∧ f a = .ok b := by
  cases x <;> simp [bind, Except.bind]

/-- A computation returns, or it fails with a fault of the given sort. -/
structure FailsWith (P : Fault → Prop) (x : Except Fault α) : Prop where
  sort : ∀ fault, x = .error fault → P fault

@[simp] lemma failsWith_ok (a : α) : FailsWith P (.ok a : Except Fault α) :=
  ⟨nofun⟩

@[simp] lemma failsWith_pure (a : α) : FailsWith P (pure a : Except Fault α) :=
  ⟨nofun⟩

@[simp] lemma failsWith_error {fault : Fault} :
    FailsWith P (.error fault : Except Fault α) ↔ P fault :=
  ⟨fun h => h.sort fault rfl, fun h => ⟨by rintro _ ⟨⟩; exact h⟩⟩

namespace FailsWith

lemma mono {x : Except Fault α} (hx : FailsWith P x) (h : ∀ fault, P fault → Q fault) :
    FailsWith Q x :=
  ⟨fun fault hfault => h fault (hx.sort fault hfault)⟩

/-- A sequence of steps fails as one of the steps does. -/
lemma bind {x : Except Fault α} {f : α → Except Fault β} (hx : FailsWith P x)
    (hf : ∀ a, x = .ok a → FailsWith P (f a)) : FailsWith P (x >>= f) := by
  cases x with
  | error fault => exact failsWith_error.2 (failsWith_error.1 hx)
  | ok a => exact hf a rfl

lemma map {x : Except Fault α} (hx : FailsWith P x) (f : α → β) : FailsWith P (x.map f) := by
  cases x with
  | error fault => exact failsWith_error.2 (failsWith_error.1 hx)
  | ok a => exact failsWith_ok _

/-- Steps for the items of a list fail as the step for one of the items does. -/
lemma mapM {f : α → Except Fault β} {as : List α} (hf : ∀ a ∈ as, FailsWith P (f a)) :
    FailsWith P (as.mapM f) := by
  induction as with
  | nil => exact failsWith_pure _
  | cons a as ih =>
    rw [List.mapM_cons]
    exact (hf a List.mem_cons_self).bind fun _ _ =>
      (ih fun b hb => hf b (List.mem_cons_of_mem a hb)).bind fun _ _ => failsWith_pure _

end FailsWith

end DesignGraph
