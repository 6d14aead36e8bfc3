import DesignGraph.Value.Basic
import DesignGraph.Number.Decimal
import DesignGraph.Text.Hex
/-!
# Reading JSON

JSON text as values. A number with a fraction or an exponent is a double, every other one an
exact integer; the names of infinity and NaN are numbers as well. When a key repeats, the last
field counts, at the place of the first.

## Main definitions

* `DesignGraph.Json.Reader.value` — the value at the start of a text, and what follows it.
* `DesignGraph.Json.read?` — the value that a whole text stands for.
-/

namespace DesignGraph.Json

namespace Reader

/-- Blanks between the parts of a JSON text. -/
def isSpace (c : Char) : Bool :=
  c == ' ' || c == '\t' || c == '\n' || c == '\r'

/-- What follows the blanks at the start. -/
def skip (cs : List Char) : List Char :=
  cs.dropWhile isSpace

/-! ## Texts -/

/-- The character that a letter after a backslash stands for. -/
def simpleEscape? (c : Char) : Option Char :=
  match c with
  | '"' => some '"'
  | '\\' => some '\\'
  | '/' => some '/'
  | 'b' => some '\x08'
  | 'f' => some '\x0c'
  | 'n' => some '\n'
  | 'r' => some '\r'
  | 't' => some '\t'
  | _ => none

/-- Whether a 16-bit unit is the first one of a pair. -/
def isHighUnit (unit : Nat) : Bool :=
  0xD800 ≤ unit && unit < 0xDC00

/-- Whether a 16-bit unit is the second one of a pair. -/
def isLowUnit (unit : Nat) : Bool :=
  0xDC00 ≤ unit && unit < 0xE000

/-- The character of a pair of units. -/
def pairChar (high low : Nat) : Char :=
  Char.ofNat (0x10000 + (high - 0xD800) * 0x400 + (low - 0xDC00))

/-- The character of a unit by itself; half of a pair counts as the replacement character. -/
def unitChar (unit : Nat) : Char :=
  if isHighUnit unit || isLowUnit unit then '\ufffd' else Char.ofNat unit

/-- A part of a quoted text: a character, or a 16-bit unit that was escaped by its number. -/
inductive Piece where
  | char (c : Char)
  | unit (n : Nat)

/-- The parts of a quoted text after its opening mark, and what follows its closing mark. -/
def pieces : List Char → Option (List Piece × List Char)
  | [] => none
  | '"' :: rest => some ([], rest)
  | '\\' :: 'u' :: a :: b :: c :: d :: rest =>
    match Hex.number? [a, b, c, d] with
    | some n => (pieces rest).map fun (ps, rest) => (.unit n :: ps, rest)
    | none => none
  | '\\' :: c :: rest =>
    match simpleEscape? c with
    | some c => (pieces rest).map fun (ps, rest) => (.char c :: ps, rest)
    | none => none
  | c :: rest =>
    if c.toNat < 0x20 then none
    else (pieces rest).map fun (ps, rest) => (.char c :: ps, rest)

/-- The characters that parts stand for, where two units may make a pair. -/
def join : List Piece → List Char
  | [] => []
  | .unit high :: .unit low :: rest =>
    if isHighUnit high && isLowUnit low then pairChar high low :: join rest
    else unitChar high :: join (.unit low :: rest)
  | .unit n :: rest => unitChar n :: join rest
  | .char c :: rest => c :: join rest

/-- The text after an opening mark, and what follows its closing mark. -/
def body (cs : List Char) : Option (String × List Char) :=
  (pieces cs).map fun (ps, rest) => (String.ofList (join ps), rest)

/-! ## Numbers -/

/-- The number with the given digits of basic Latin. -/
def ofDigits (ds : List Char) : Nat :=
  ds.foldl (fun n c => n * 10 + (c.toNat - '0'.toNat)) 0

/-- The digits of a whole number at the start: a zero, or a row that starts with none. -/
def wholeDigits : List Char → List Char × List Char
  | '0' :: rest => (['0'], rest)
  | cs => (cs.takeWhile Char.isDigit, cs.dropWhile Char.isDigit)

/-- The digits after a point at the start; none when no digit follows. -/
def fractionDigits : List Char → List Char × List Char
  | '.' :: rest =>
    match rest.takeWhile Char.isDigit with
    | [] => ([], '.' :: rest)
    | ds => (ds, rest.dropWhile Char.isDigit)
  | cs => ([], cs)

/-- The exponent at the start; none when no digit follows the mark and the sign. -/
def exponent (cs : List Char) : Option Int × List Char :=
  match cs with
  | c :: rest =>
    if c = 'e' ∨ c = 'E' then
      let (negative, ds) := match rest with
        | '+' :: ds => (false, ds)
        | '-' :: ds => (true, ds)
        | ds => (false, ds)
      match ds.takeWhile Char.isDigit with
      | [] => (none, cs)
      | e =>
        (some (if negative then -(ofDigits e : Int) else ofDigits e), ds.dropWhile Char.isDigit)
    else (none, cs)
  | [] => (none, [])

/-- The number at the start, after an optional minus sign. -/
def unsigned (negative : Bool) (cs : List Char) : Option (Value × List Char) :=
  match wholeDigits cs with
  | ([], _) => none
  | (whole, rest) =>
    let (fraction, rest) := fractionDigits rest
    let (e, rest) := exponent rest
    if fraction.isEmpty && e.isNone then
      let n : Int := ofDigits whole
      some (.int (if negative then -n else n), rest)
    else
      let d : Decimal := ⟨negative, ofDigits (whole ++ fraction), e.getD 0 - fraction.length⟩
      some (.float d.toDouble, rest)

/-- The number at the start. -/
def number : List Char → Option (Value × List Char)
  | '-' :: rest => unsigned true rest
  | cs => unsigned false cs

/-- The names that stand for values. All NaNs of a text are one and the same. -/
def names : List (List Char × Value) :=
  [("null".toList, .null), ("true".toList, .bool true), ("false".toList, .bool false),
   ("NaN".toList, .nan 0), ("Infinity".toList, .float (Double.infinity false)),
   ("-Infinity".toList, .float (Double.infinity true))]

/-- The value that a name at the start stands for. -/
def named (cs : List Char) : Option (Value × List Char) :=
  names.findSome? fun (name, v) =>
    if name.isPrefixOf cs then some (v, cs.drop name.length) else none

/-! ## Values -/

mutual

/-- The value at the start; `depth` bounds the number of parts inside one another and in a row. -/
def value : Nat → List Char → Option (Value × List Char)
  | 0, _ => none
  | depth + 1, cs =>
    match cs with
    | '"' :: rest => (body rest).map fun (s, rest) => (.str s, rest)
    | '[' :: rest =>
      match skip rest with
      | ']' :: rest => some (.list [], rest)
      | rest => (items depth rest).map fun (vs, rest) => (.list vs, rest)
    | '\x7b' :: rest =>
      match skip rest with
      | '\x7d' :: rest => some (.obj [], rest)
      | rest => (fields depth rest).map fun (fs, rest) => (.obj (Fields.ofPairs fs), rest)
    | cs => (named cs).or (number cs)

/-- The items of a list up to the closing bracket. -/
def items : Nat → List Char → Option (List Value × List Char)
  | 0, _ => none
  | depth + 1, cs =>
    match value depth cs with
    | none => none
    | some (v, rest) =>
      match skip rest with
      | ']' :: rest => some ([v], rest)
      | ',' :: rest => (items depth (skip rest)).map fun (vs, rest) => (v :: vs, rest)
      | _ => none

/-- The fields of an object up to the closing brace. -/
def fields : Nat → List Char → Option (List (String × Value) × List Char)
  | 0, _ => none
  | depth + 1, cs =>
    match cs with
    | '"' :: rest =>
      match body rest with
      | none => none
      | some (key, rest) =>
        match skip rest with
        | ':' :: rest =>
          match value depth (skip rest) with
          | none => none
          | some (v, rest) =>
            let field := (key, v)
            match skip rest with
            | '\x7d' :: rest => some ([field], rest)
            | ',' :: rest => (fields depth (skip rest)).map fun (fs, rest) => (field :: fs, rest)
            | _ => none
        | _ => none
    | _ => none

end

end Reader

/-- The value that a text stands for, if it is JSON. Every part of a value takes a character of
its own, which bounds their number. -/
def read? (text : String) : Option Value :=
  let cs := Reader.skip text.toList
  match Reader.value (2 * cs.length + 1) cs with
  | some (v, rest) => if (Reader.skip rest).isEmpty then some v else none
  | none => none

end DesignGraph.Json
