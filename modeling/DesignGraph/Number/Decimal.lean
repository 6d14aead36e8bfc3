import DesignGraph.Number.Double
/-!
# Decimals

Decimal numbers between text and doubles: the double nearest to a decimal, the shortest decimal
that stands for a double, and the ways in which digits are laid out as text.

## Main definitions

* `DesignGraph.Decimal` — a coefficient, a power of ten and a sign.
* `DesignGraph.Decimal.toDouble` — the nearest double.
* `DesignGraph.Decimal.shortest` — the fewest digits that read back as a given double.
* `DesignGraph.DigitLayout` — where the point stands, when an exponent is written and how zero,
  infinity and NaN are spelled.
* `DesignGraph.DigitLayout.number` — the text of a double under a layout.
* `DesignGraph.Decimal.fixed` — the text with a given number of places.
-/

namespace DesignGraph

/-- The decimal `coefficient * 10 ^ exponent`, negated when `negative` is set. -/
structure Decimal where
  negative : Bool
  coefficient : Nat
  exponent : Int
  deriving DecidableEq, Repr

namespace Decimal

/-- The decimal digits of a whole number, most significant first; zero has one digit. -/
def digits (n : Nat) : List Char :=
  Nat.toDigits 10 n

/-- The text of an integer. -/
def intText (i : Int) : String :=
  String.ofList (if i < 0 then '-' :: digits i.natAbs else digits i.natAbs)

/-- The text of a whole number. -/
def natText (n : Nat) : String :=
  String.ofList (digits n)

/-! ## Reading -/

/-- Powers of ten beyond this one leave the range of doubles on either side. -/
def rangeOfPowers : Int := 400

/-- The double nearest to a decimal: infinite above the range, zero below it. -/
def toDouble (d : Decimal) : Float :=
  let top := d.exponent + (digits d.coefficient).length
  if d.coefficient = 0 ∨ top < -rangeOfPowers then Double.nearest d.negative 0 1
  else if rangeOfPowers < top then Double.infinity d.negative
  else
    match d.exponent with
    | .ofNat k => Double.nearest d.negative (d.coefficient * Nat.pow 10 k) 1
    | .negSucc k => Double.nearest d.negative d.coefficient (Nat.pow 10 (k + 1))

/-! ## Shortest digits -/

/-- The place `k` of the first digit of a positive fraction: `10 ^ (k - 1) ≤ num / den < 10 ^ k`. -/
def leadingPlace (num den : Nat) : Int :=
  if den ≤ num then (digits (num / den)).length
  else
    let d := (digits (den / num)).length
    if den = num * Nat.pow 10 (d - 1) then 2 - (d : Int) else 1 - (d : Int)

/-- Multiplies the first of two whole numbers by a power of ten, or the second by the inverse
power. -/
def shift (a b : Nat) (power : Int) : Nat × Nat :=
  match power with
  | .ofNat k => (a * Nat.pow 10 k, b)
  | .negSucc k => (a, b * Nat.pow 10 (k + 1))

/-- Whether the decimal `c * 10 ^ t` reads back as the double of `units` units: it lies between
the midpoints to the neighbouring doubles, which belong to the double when its significand is
even. -/
def readsBack (units c : Nat) (t : Int) : Bool :=
  let gap := Nat.pow 2 (Double.spacing units)
  let significand := units / gap
  let below := if significand = Double.exponentUnit ∧ 1 < gap then gap else 2 * gap
  let (candidate, scale) := shift (4 * c * Double.unitsPerOne) 1 t
  let low := (4 * units - below) * scale
  let high := (4 * units + 2 * gap) * scale
  if significand % 2 = 0 then low ≤ candidate ∧ candidate ≤ high
  else low < candidate ∧ candidate < high

/-- Of the two neighbours of the double of `units` units among the multiples of `10 ^ t`, the
nearer one that reads back; of two equally near ones the even multiple. -/
def nearestOnGrid? (units : Nat) (t : Int) : Option (Nat × Int) :=
  let (num, den) := shift units Double.unitsPerOne (-t)
  let c := num / den
  match readsBack units c t, readsBack units (c + 1) t with
  | true, true => some (Double.roundDiv num den, t)
  | true, false => some (c, t)
  | false, true => some (c + 1, t)
  | false, false => none

/-- The decimal with the fewest digits that reads back as the double of `units` units, and of
those the nearest; seventeen digits always suffice. -/
def shortest (units : Nat) : Nat × Int :=
  if units = 0 then (0, 0)
  else
    let place := leadingPlace units Double.unitsPerOne
    ((List.range' 1 17).findSome? fun (n : Nat) => nearestOnGrid? units (place - n)).getD
      (units, 0)

end Decimal

/-! ## Layouts -/

/-- How the digits of a number are laid out as text. -/
structure DigitLayout where
  /-- Numbers whose point would stand left of this place get an exponent. -/
  leastPlace : Int
  /-- Numbers whose point would stand right of this place get an exponent. -/
  greatestPlace : Int
  /-- What follows a whole number written without exponent. -/
  wholeEnd : String
  /-- The least number of digits of an exponent. -/
  exponentDigits : Nat
  /-- The text of the zero with a minus sign. -/
  negativeZero : String
  /-- The text of infinity. -/
  infinite : String
  /-- The text of NaN. -/
  notANumber : String

namespace DigitLayout

/-- Removes the zeros at the end of a list of digits. -/
def dropTrailingZeros (ds : List Char) : List Char :=
  (ds.reverse.dropWhile (· == '0')).reverse

/-- The digits of an exponent, filled up with zeros on the left. -/
def exponentText (layout : DigitLayout) (e : Nat) : List Char :=
  let ds := Decimal.digits e
  List.replicate (layout.exponentDigits - ds.length) '0' ++ ds

/-- Lays out `0.ds * 10 ^ place`, where `ds` starts and ends with a digit other than zero. -/
def place (layout : DigitLayout) (ds : List Char) (place : Int) : List Char :=
  if layout.leastPlace ≤ place ∧ place ≤ layout.greatestPlace then
    match place with
    | .ofNat n =>
      if n = 0 then '0' :: '.' :: ds
      else if ds.length ≤ n then
        ds ++ List.replicate (n - ds.length) '0' ++ layout.wholeEnd.toList
      else ds.take n ++ '.' :: ds.drop n
    | .negSucc n => '0' :: '.' :: (List.replicate (n + 1) '0' ++ ds)
  else
    let mantissa := match ds with
      | [d] => [d]
      | d :: rest => d :: '.' :: rest
      | [] => []
    let e := place - 1
    mantissa ++ 'e' :: (if e < 0 then '-' else '+') :: layout.exponentText e.natAbs

/-- Lays out the positive number `c * 10 ^ t`. -/
def positive (layout : DigitLayout) (c : Nat) (t : Int) : List Char :=
  let ds := Decimal.digits c
  layout.place (dropTrailingZeros ds) (ds.length + t)

/-- The text of a double: its shortest digits in this layout. -/
def number (layout : DigitLayout) (x : Float) : String :=
  match Double.view x with
  | .nan => layout.notANumber
  | .infinite s => (if s then "-" else "") ++ layout.infinite
  | .finite s u =>
    if u = 0 then (if s then layout.negativeZero else "0" ++ layout.wholeEnd)
    else
      let (c, t) := Decimal.shortest u
      (if s then "-" else "") ++ String.ofList (layout.positive c t)

/-- Numbers as browsers write them: without exponent from a millionth up to 21 places, whole
numbers without point, a plain zero. -/
def browser : DigitLayout where
  leastPlace := -5
  greatestPlace := 21
  wholeEnd := ""
  exponentDigits := 1
  negativeZero := "0"
  infinite := "Infinity"
  notANumber := "NaN"

/-- Numbers as literals that keep doubles apart from integers: a point or an exponent always
shows, and the exponent has two digits at least. -/
def literal : DigitLayout where
  leastPlace := -3
  greatestPlace := 16
  wholeEnd := ".0"
  exponentDigits := 2
  negativeZero := "-0.0"
  infinite := "inf"
  notANumber := "nan"

/-- Literals as they stand in JSON text, with names for infinity and NaN. -/
def json : DigitLayout :=
  { literal with infinite := "Infinity", notANumber := "NaN" }

end DigitLayout

/-! ## Fixed places -/

/-- The text of a double with exactly `places` decimal places, the exact value rounded to the
nearest, a tie to the even digit; the sign shows even when every digit is zero. -/
def Decimal.fixed (places : Nat) (x : Float) : String :=
  match Double.view x with
  | .nan => "nan"
  | .infinite s => if s then "-inf" else "inf"
  | .finite s u =>
    let ds := Decimal.digits (Double.roundDiv (u * Nat.pow 10 places) Double.unitsPerOne)
    let ds := List.replicate (places + 1 - ds.length) '0' ++ ds
    let whole := ds.length - places
    (if s then "-" else "") ++ String.ofList (ds.take whole ++ '.' :: ds.drop whole)

end DesignGraph
