import DesignGraph.Number.Double
import DesignGraph.Value.Basic
/-!
# Numbers

Lengths and positions as they are written in a snapshot: exact integers or doubles. Dividing two
integers rounds their exact quotient once; an integer that meets a double is rounded first.

## Main definitions

* `DesignGraph.Number` — an integer or a double.
* `DesignGraph.Number.ofValue?`, `DesignGraph.Number.toValue` — numbers among the values.
* `DesignGraph.Number.dividedBy` — division.
* `DesignGraph.Number.times` — multiplication by a double.
-/

namespace DesignGraph

/-- An exact integer or a double. -/
inductive Number where
  | int (i : Int)
  | float (x : Float)
  deriving DecidableEq, Repr, Inhabited

namespace Number

/-- The number that a value is; truth values count as one and zero. -/
def ofValue? : Value → Option Number
  | .int i => some (.int i)
  | .float x => some (.float x)
  | .nan _ => some (.float Double.nan)
  | .bool b => some (.int b.toInt)
  | _ => none

/-- A number as a value. -/
def toValue : Number → Value
  | .int i => .int i
  | .float x => .float x

/-- The double nearest to a number; an integer beyond the range has none. -/
def toDouble : Number → Except Fault Float
  | .int i => Double.ofInt i
  | .float x => .ok x

/-- Whether a number is zero. -/
def isZero : Number → Bool
  | .int i => i == 0
  | .float x => x == 0

/-- Whether a number is zero or negative; NaN is neither. -/
def isAtMostZero : Number → Bool
  | .int i => i ≤ 0
  | .float x => x ≤ 0

/-- The quotient of two numbers. -/
def dividedBy : Number → Number → Except Fault Float
  | .int a, .int b => Double.quotient a b
  | a, b => do
    let x ← a.toDouble
    let y ← b.toDouble
    if y == 0 then .error .divisionByZero else return x / y

/-- A number times a double. -/
def times (a : Number) (factor : Float) : Except Fault Float := do
  return (← a.toDouble) * factor

end Number

end DesignGraph
