import DesignGraph.Fault
/-!
# Doubles, exactly

Every finite double is a whole number of units of `2 ^ -1074`, the least positive double. This
module reads a double as such a number and rounds exact fractions to the nearest double, ties to
the even neighbour, so that every conversion between integers, decimals and doubles is exact
arithmetic on whole numbers.

## Main definitions

* `DesignGraph.Double.View`, `DesignGraph.Double.view` — what a double stands for.
* `DesignGraph.Double.nearest` — the double nearest to a fraction.
* `DesignGraph.Double.ofInt` — the double nearest to an integer, a fault beyond the range.
* `DesignGraph.Double.quotient` — the double nearest to a quotient of two integers.
* `DesignGraph.Double.floor`, `DesignGraph.Double.ceil`, `DesignGraph.Double.roundHalfUp` —
  whole neighbours.
* `DesignGraph.Double.remainder` — the remainder of truncating division.
* `DesignGraph.Double.equalsInt` — exact comparison with an integer.

## Main results

* `DesignGraph.Double.roundDiv_le`, `DesignGraph.Double.le_roundDiv` — rounding stays within half
  a unit.
-/

namespace DesignGraph.Double

/-! ## Reading a double -/

/-- What a double stands for: `finite s u` is `u` units of `2 ^ -1074`, negated when `s` is
set. -/
inductive View where
  | nan
  | infinite (negative : Bool)
  | finite (negative : Bool) (units : Nat)
  deriving DecidableEq, Repr

/-- The number of units in one. -/
def unitsPerOne : Nat := Nat.pow 2 1074

/-- The weight of the lowest exponent bit in a bit pattern; significands lie below twice this. -/
def exponentUnit : Nat := Nat.pow 2 52

/-- The bit pattern of positive infinity. -/
def infinityBits : Nat := 2047 * exponentUnit

/-- Reads a double. -/
def view (x : Float) : View :=
  if x.isNaN then .nan
  else
    let bits := x.toBits.toNat
    let negative := bits / Nat.pow 2 63 == 1
    let field := bits / exponentUnit % 2048
    let fraction := bits % exponentUnit
    if field = 2047 then .infinite negative
    else if field = 0 then .finite negative fraction
    else .finite negative ((exponentUnit + fraction) * Nat.pow 2 (field - 1))

/-- The power of two that separates neighbouring doubles around a magnitude, in units: magnitudes
below `2 ^ 53` units are one unit apart, larger ones keep 53 significant bits. -/
def spacing (units : Nat) : Nat :=
  if units < Nat.pow 2 53 then 0 else units.log2 - 52

/-! ## Rounding to a double -/

/-- The double with the given sign and magnitude bits. -/
def ofMagnitude (negative : Bool) (bits : Nat) : Float :=
  Float.ofBits (UInt64.ofNat (if negative then Nat.pow 2 63 + bits else bits))

/-- The whole number nearest to `num / den`, a tie going to the even one. -/
def roundDiv (num den : Nat) : Nat :=
  let q := num / den
  let r := num % den
  if 2 * r < den then q
  else if den < 2 * r then q + 1
  else if q % 2 = 0 then q else q + 1

/-- Rounding goes up by at most half a unit. -/
theorem roundDiv_le (num den : Nat) : 2 * (roundDiv num den * den) ≤ 2 * num + den := by
  have h := Nat.div_add_mod num den
  simp only [roundDiv]
  generalize num / den = q at *
  generalize num % den = r at *
  rw [Nat.mul_comm] at h
  split <;> (try split) <;> (try split) <;> (try rw [Nat.add_mul]) <;> omega

/-- Rounding goes down by at most half a unit. -/
theorem le_roundDiv (num den : Nat) (h : 0 < den) :
    2 * num ≤ 2 * (roundDiv num den * den) + den := by
  have hd := Nat.div_add_mod num den
  have hm := Nat.mod_lt num h
  simp only [roundDiv]
  generalize num / den = q at *
  generalize num % den = r at *
  rw [Nat.mul_comm] at hd
  split <;> (try split) <;> (try split) <;> (try rw [Nat.add_mul]) <;> omega

/-- The magnitude bits of the double nearest to `num / den`; from half a step above the largest
double on, the bits of infinity. -/
def nearestBits (num den : Nat) : Nat :=
  let units := num * unitsPerOne
  let p := spacing (units / den)
  min infinityBits (p * exponentUnit + roundDiv units (den * Nat.pow 2 p))

/-- The double nearest to `num / den`, with the given sign; infinite beyond the range. -/
def nearest (negative : Bool) (num den : Nat) : Float :=
  ofMagnitude negative (nearestBits num den)

/-- Infinity of the given sign. -/
def infinity (negative : Bool) : Float :=
  ofMagnitude negative infinityBits

/-- The double that is not a number. -/
def nan : Float := 0.0 / 0.0

/-- The double nearest to an integer, or infinite. -/
def ofIntOrInfinite (i : Int) : Float :=
  nearest (i < 0) i.natAbs 1

/-- The double nearest to an integer; an integer that would round beyond the largest double has
none. -/
def ofInt (i : Int) : Except Fault Float :=
  if nearestBits i.natAbs 1 < infinityBits then .ok (ofIntOrInfinite i)
  else .error .outOfRange

/-- The double nearest to the quotient of two integers. -/
def quotient (a b : Int) : Except Fault Float :=
  if b = 0 then .error .divisionByZero
  else if nearestBits a.natAbs b.natAbs < infinityBits then
    .ok (nearest (decide (a < 0) != decide (b < 0)) a.natAbs b.natAbs)
  else .error .outOfRange

/-! ## Whole neighbours -/

/-- Whether `x` is neither infinite nor NaN. -/
def isFinite (x : Float) : Bool :=
  match view x with
  | .finite .. => true
  | _ => false

/-- A sign and a number of units as one signed number of units. -/
def signed (negative : Bool) (units : Nat) : Int :=
  if negative then -(units : Int) else units

/-- The greatest integer not above `x`. -/
def floorInt (x : Float) : Except Fault Int :=
  match view x with
  | .nan => .error .notInteger
  | .infinite _ => .error .outOfRange
  | .finite s u => .ok ((signed s u).fdiv unitsPerOne)

/-- The greatest whole double not above `x`; zero is positive, infinities and NaN stay. -/
def floor (x : Float) : Float :=
  match view x with
  | .finite s u => ofIntOrInfinite ((signed s u).fdiv unitsPerOne)
  | _ => x

/-- The least whole double not below `x`; zero is positive, infinities and NaN stay. -/
def ceil (x : Float) : Float :=
  match view x with
  | .finite s u => ofIntOrInfinite (-((-signed s u).fdiv unitsPerOne))
  | _ => x

/-- The whole double nearest to `x`, a half going up; zero is positive, infinities and NaN
stay. The distance to the whole number below is itself a rounded difference. -/
def roundHalfUp (x : Float) : Float :=
  match view x with
  | .finite s u =>
    let below := (signed s u).fdiv unitsPerOne
    ofIntOrInfinite (if x - ofIntOrInfinite below ≥ 0.5 then below + 1 else below)
  | _ => x

/-- The integer that `x` is, if it is one. -/
def toInt? (x : Float) : Option Int :=
  match view x with
  | .finite s u => if u % unitsPerOne = 0 then some (signed s (u / unitsPerOne)) else none
  | _ => none

/-- Whether `x` is exactly the integer `i`. -/
def equalsInt (x : Float) (i : Int) : Bool :=
  toInt? x == some i

/-! ## Remainder -/

/-- What is left of `a` after the truncated quotient of `a` by `b` is taken out `b` times; the
sign is that of `a`. NaN when `a` is infinite or `b` is zero. -/
def remainder (a b : Float) : Float :=
  match view a, view b with
  | .finite s u, .finite _ v => if v = 0 then nan else nearest s (u % v) unitsPerOne
  | .finite .., .infinite _ => a
  | _, _ => nan

end DesignGraph.Double
