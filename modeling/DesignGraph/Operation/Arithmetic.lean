import DesignGraph.Number.Double
/-!
# Arithmetic of graphs

The number functions of graphs where they differ from the plain arithmetic of doubles: results
beyond the range are infinite, results that do not exist are NaN, and nothing fails.

## Main definitions

* `DesignGraph.Arithmetic.least`, `DesignGraph.Arithmetic.greatest` — NaN in, NaN out; of two
  zeros the first.
* `DesignGraph.Arithmetic.power`, `DesignGraph.Arithmetic.sine`,
  `DesignGraph.Arithmetic.cosine` — powers and angles.
-/

namespace DesignGraph.Arithmetic

/-- The lesser of two numbers; the first of two equal ones, NaN if one of them is. -/
def least (a b : Float) : Float :=
  if a.isNaN || b.isNaN then Double.nan else if b < a then b else a

/-- The greater of two numbers; the first of two equal ones, NaN if one of them is. -/
def greatest (a b : Float) : Float :=
  if a.isNaN || b.isNaN then Double.nan else if a < b then b else a

/-- The power of `base` by `exponent`. A NaN exponent gives NaN, and so does an infinite exponent on
one or minus one; any base to the power zero is one. -/
def power (base exponent : Float) : Float :=
  if exponent.isNaN then Double.nan
  else if exponent == 0 then 1
  else if base.abs == 1 && exponent.abs == Double.infinity false then Double.nan
  else base.pow exponent

/-- The sine of a finite angle, NaN otherwise. -/
def sine (x : Float) : Float :=
  if Double.isFinite x then x.sin else Double.nan

/-- The cosine of a finite angle, NaN otherwise. -/
def cosine (x : Float) : Float :=
  if Double.isFinite x then x.cos else Double.nan

/-- Whether a number is one of those that divide to zero. -/
def isZero (x : Float) : Bool :=
  x == 0

/-- Maps a number linearly from one range to another; a range without width maps to the start of
the other. -/
def mapRange (value inMin inMax outMin outMax : Float) : Float :=
  let width := inMax - inMin
  if isZero width then outMin else outMin + (value - inMin) / width * (outMax - outMin)

end DesignGraph.Arithmetic
