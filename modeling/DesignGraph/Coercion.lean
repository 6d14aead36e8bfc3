import DesignGraph.Value.Basic
import DesignGraph.Number.Decimal
import DesignGraph.Text.Blank
import DesignGraph.Text.DecimalDigit
import DesignGraph.Text.Hex
/-!
# Coercion

Graphs are written against the value rules of browsers: numbers are doubles, texts become numbers
leniently, every list and object counts as true, and the loose comparison converts between kinds.
Null stands for a missing value as well.

## Main definitions

* `DesignGraph.Coercion.textToNumber` — the number that a text stands for, NaN for none.
* `DesignGraph.Coercion.toNumber`, `DesignGraph.Coercion.toText`,
  `DesignGraph.Coercion.truthy` — a value as a number, a text, a truth value.
* `DesignGraph.Coercion.orDefault`, `DesignGraph.Coercion.numberOr` — defaults for missing and
  empty values.
* `DesignGraph.Coercion.looseEquals` — the loose comparison.
-/

namespace DesignGraph.Coercion

/-! ## Numbers from texts -/

/-- The value of a digit of basic Latin in a base up to sixteen. -/
def radixDigit? (base : Nat) (c : Char) : Option Nat :=
  (Hex.value? c).filter (· < base)

/-- The number that a nonempty row of digits in a base stands for. -/
def radixNumber? (base : Nat) : List Char → Option Nat
  | [] => none
  | ds => ds.foldlM (fun n c => (radixDigit? base c).map (n * base + ·)) 0

/-- The base that a marker after a leading zero announces. -/
def radixOf? (c : Char) : Option Nat :=
  if c = 'x' ∨ c = 'X' then some 16
  else if c = 'o' ∨ c = 'O' then some 8
  else if c = 'b' ∨ c = 'B' then some 2
  else none

/-- Binary digits may repeat their marker once. -/
def dropSecondMarker (base : Nat) : List Char → List Char
  | '0' :: c :: rest => if base = 2 ∧ radixOf? c = some 2 then rest else '0' :: c :: rest
  | ds => ds

/-- The base and the digits of a text that starts with a base marker and goes on with at least
one hexadecimal digit and nothing else. -/
def splitRadix? : List Char → Option (Nat × List Char)
  | '0' :: c :: ds =>
    match radixOf? c with
    | some base =>
      if ds ≠ [] ∧ ds.all (fun d => (radixDigit? 16 d).isSome) then some (base, ds) else none
    | none => none
  | _ => none

/-- A sign at the start of a text: whether it is a minus, and the rest. -/
def splitSign : List Char → Bool × List Char
  | '+' :: rest => (false, rest)
  | '-' :: rest => (true, rest)
  | cs => (false, cs)

/-- The longest row of decimal digits at the start of a text, and the rest. -/
def splitDigits (cs : List Char) : List Nat × List Char :=
  ((cs.takeWhile isDecimalDigit).filterMap digitValue?, cs.dropWhile isDecimalDigit)

/-- The number with the given decimal digits. -/
def ofDigits (ds : List Nat) : Nat :=
  ds.foldl (fun n d => n * 10 + d) 0

/-- The exponent at the end of a decimal: nothing, or a mark, an optional sign and digits. -/
def exponent? : List Char → Option Int
  | [] => some 0
  | c :: rest =>
    if c = 'e' ∨ c = 'E' then
      let (negative, rest) := splitSign rest
      match splitDigits rest with
      | ([], _) => none
      | (ds, []) => some (if negative then -(ofDigits ds : Int) else ofDigits ds)
      | _ => none
    else none

/-- The decimal that a text stands for: an optional sign, digits with an optional point among,
before or after them, and an optional exponent. -/
def decimal? (cs : List Char) : Option Decimal :=
  let (negative, cs) := splitSign cs
  let (whole, rest) := splitDigits cs
  let (fraction, rest) := match rest with
    | '.' :: rest => splitDigits rest
    | _ => ([], rest)
  if whole.isEmpty && fraction.isEmpty then none
  else (exponent? rest).map fun e => ⟨negative, ofDigits (whole ++ fraction), e - fraction.length⟩

/-- The number that a text stands for, blanks at its ends aside: zero for no text, an infinity by
name, a whole number after a base marker, or a decimal. Any other text gives NaN. -/
def textToNumber (text : String) : Except Fault Float :=
  let cs := trimBlanks text.toList
  if cs = [] then .ok 0
  else if cs = "Infinity".toList ∨ cs = "+Infinity".toList then .ok (Double.infinity false)
  else if cs = "-Infinity".toList then .ok (Double.infinity true)
  else
    match splitRadix? cs with
    | some (base, ds) =>
      match radixNumber? base (dropSecondMarker base ds) with
      | some n => Double.ofInt n
      | none => .ok Double.nan
    | none =>
      match decimal? cs with
      | some d => .ok d.toDouble
      | none => .ok Double.nan

/-! ## Values as texts -/

mutual

/-- A value as a text: names for null and the truth values, numbers as browsers write them,
lists as their items between commas, objects without their content. -/
def toText : Value → String
  | .null => "null"
  | .bool b => if b then "true" else "false"
  | .int i => Decimal.intText i
  | .float x => DigitLayout.browser.number x
  | .nan _ => DigitLayout.browser.number Double.nan
  | .str s => s
  | .list items => ",".intercalate (itemTexts items)
  | .obj _ => "[object Object]"

/-- The texts of the items of a list, where null leaves no trace. -/
def itemTexts : List Value → List String
  | [] => []
  | .null :: rest => "" :: itemTexts rest
  | v :: rest => toText v :: itemTexts rest

end

/-- The text of a number in browser layout, where an integer is written with all its digits; an
integer beyond the range of doubles has none. -/
def formatNumber : Value → Except Fault String
  | .float x => .ok (DigitLayout.browser.number x)
  | .nan _ => .ok (DigitLayout.browser.number Double.nan)
  | .int i => format i
  | .bool b => format b.toInt
  | _ => .error .wrongKind
where
  format (i : Int) : Except Fault String := do
    let _ ← Double.ofInt i
    if i = 0 then return "0"
    let ds := DigitLayout.browser.positive i.natAbs 0
    return (if i < 0 then "-" else "") ++ String.ofList ds

/-! ## Values as numbers and truth values -/

/-- Integers and doubles are numbers; truth values are not. -/
def isNumber : Value → Bool
  | .int _ | .float _ | .nan _ => true
  | _ => false

/-- A value as a number: null and the empty list are zero, a list of one item counts as the text
of that item, other lists and all objects are NaN. -/
def toNumber : Value → Except Fault Float
  | .null => .ok 0
  | .bool b => .ok (if b then 1 else 0)
  | .int i => Double.ofInt i
  | .float x => .ok x
  | .nan _ => .ok Double.nan
  | .str s => textToNumber s
  | .list [] => .ok 0
  | .list [.null] => textToNumber ""
  | .list [v] => textToNumber (toText v)
  | .list _ => .ok Double.nan
  | .obj _ => .ok Double.nan

/-- A value as a truth value: null, false, zeros, NaN and the empty text are false, and every
list and object is true. -/
def truthy : Value → Except Fault Bool
  | .null => .ok false
  | .bool b => .ok b
  | .int i => if i = 0 then .ok false else (Double.ofInt i).map fun _ => true
  | .float x => .ok (!(x == 0 || x.isNaN))
  | .nan _ => .ok false
  | .str s => .ok (s != "")
  | .list _ | .obj _ => .ok true

/-- The value when it is true, else the default. -/
def orDefault (value default : Value) : Except Fault Value := do
  return if ← truthy value then value else default

/-- The value as a number when it is true, else the default as a number. -/
def numberOr (value default : Value) : Except Fault Float := do
  toNumber (← orDefault value default)

/-! ## Loose comparison -/

/-- Truth values as the numbers one and zero; other values as they are. -/
def boolAsNumber : Value → Value
  | .bool b => .float (if b then 1 else 0)
  | v => v

/-- Lists and objects as their texts; other values as they are. -/
def objectAsText (v : Value) : Value :=
  if v.isObject then .str (toText v) else v

/-- Texts compare as texts; a number and a text, and two numbers, compare as doubles. -/
def scalarEquals : Value → Value → Except Fault Bool
  | .str s, .str t => .ok (s == t)
  | a, b => do
    let x ← toNumber a
    let y ← toNumber b
    return x == y

/-- The loose comparison of `a` and `b`, where `same` tells whether they are one and the same
list or object. Null equals only null, truth values compare as numbers with anything else, lists
and objects compare by identity with each other and by their texts with anything else. -/
def looseEquals (same : Bool) : Value → Value → Except Fault Bool
  | .null, .null => .ok true
  | .null, _ | _, .null => .ok false
  | .bool a, .bool b => .ok (a == b)
  | a, b =>
    let a := boolAsNumber a
    let b := boolAsNumber b
    if a.isObject && b.isObject then .ok same
    else scalarEquals (objectAsText a) (objectAsText b)

end DesignGraph.Coercion
