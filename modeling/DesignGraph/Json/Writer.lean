import DesignGraph.Value.Basic
import DesignGraph.Number.Decimal
import DesignGraph.Text.Hex
/-!
# Writing JSON

Values as JSON text. Integers keep all their digits, doubles are written so that they read back
and are told apart from integers, and infinities and NaN have names. Fields keep their order.

## Main definitions

* `DesignGraph.Json.Layout` — how much room the text takes and which characters are escaped:
  `Layout.compact`, `Layout.line`, `Layout.indented`.
* `DesignGraph.Json.write`, `DesignGraph.Json.text` — a value as JSON text.
-/

namespace DesignGraph.Json

/-- How values are laid out as JSON text. -/
structure Layout where
  /-- Whether every character beyond basic Latin is escaped. -/
  latinOnly : Bool
  /-- What stands between a bracket or comma and what follows it, inside of so many brackets. -/
  newLine : Nat → List Char
  /-- What follows a comma on its line. -/
  afterComma : List Char
  /-- What follows the colon after a key. -/
  afterColon : List Char

/-- Without any space, and with only those characters escaped that must be. -/
def Layout.compact : Layout where
  latinOnly := false
  newLine _ := []
  afterComma := []
  afterColon := []

/-- On one line, with spaces after commas and colons. -/
def Layout.line : Layout where
  latinOnly := true
  newLine _ := []
  afterComma := [' ']
  afterColon := [' ']

/-- One item a line, indented by two spaces for every bracket around it. -/
def Layout.indented : Layout where
  latinOnly := true
  newLine depth := '\n' :: List.replicate (2 * depth) ' '
  afterComma := []
  afterColon := [' ']

/-! ## Texts -/

/-- The escape of a 16-bit unit. -/
def escapeUnit (unit : Nat) : List Char :=
  '\\' :: 'u' :: Hex.text 4 unit

/-- The escape of a character: characters beyond the first 65536 take a pair of units. -/
def escapeCode (code : Nat) : List Char :=
  if code < 0x10000 then escapeUnit code
  else
    let offset := code - 0x10000
    escapeUnit (0xD800 + offset / 0x400) ++ escapeUnit (0xDC00 + offset % 0x400)

/-- A character inside a quoted text. -/
def escapeChar (latinOnly : Bool) (c : Char) : List Char :=
  if c = '"' then ['\\', '"']
  else if c = '\\' then ['\\', '\\']
  else if c = '\n' then ['\\', 'n']
  else if c = '\r' then ['\\', 'r']
  else if c = '\t' then ['\\', 't']
  else if c = '\x08' then ['\\', 'b']
  else if c = '\x0c' then ['\\', 'f']
  else if c.toNat < 0x20 then escapeUnit c.toNat
  else if latinOnly ∧ 0x7f ≤ c.toNat then escapeCode c.toNat
  else [c]

/-- A text in quotes. -/
def quote (latinOnly : Bool) (s : String) : List Char :=
  '"' :: (s.toList.flatMap (escapeChar latinOnly) ++ ['"'])

/-! ## Values -/

mutual

/-- A value as JSON text, inside of `depth` brackets. -/
def write (layout : Layout) (depth : Nat) : Value → List Char
  | .null => "null".toList
  | .bool b => if b then "true".toList else "false".toList
  | .int i => (Decimal.intText i).toList
  | .float x => (DigitLayout.json.number x).toList
  | .nan _ => (DigitLayout.json.number Double.nan).toList
  | .str s => quote layout.latinOnly s
  | .list [] => ['[', ']']
  | .list (v :: rest) =>
    '[' :: (layout.newLine (depth + 1) ++ write layout (depth + 1) v ++
      writeItems layout depth rest)
  | .obj [] => ['\x7b', '\x7d']
  | .obj ((k, v) :: rest) =>
    '\x7b' :: (layout.newLine (depth + 1) ++ quote layout.latinOnly k ++
      ':' :: (layout.afterColon ++ write layout (depth + 1) v ++ writeFields layout depth rest))

/-- What follows an item of a list: the other items and the closing bracket. -/
def writeItems (layout : Layout) (depth : Nat) : List Value → List Char
  | [] => layout.newLine depth ++ [']']
  | v :: rest =>
    ',' :: (layout.afterComma ++ layout.newLine (depth + 1) ++ write layout (depth + 1) v ++
      writeItems layout depth rest)

/-- What follows a field of an object: the other fields and the closing brace. -/
def writeFields (layout : Layout) (depth : Nat) : List (String × Value) → List Char
  | [] => layout.newLine depth ++ ['\x7d']
  | (k, v) :: rest =>
    ',' :: (layout.afterComma ++ layout.newLine (depth + 1) ++ quote layout.latinOnly k ++
      ':' :: (layout.afterColon ++ write layout (depth + 1) v ++ writeFields layout depth rest))

end

/-- A value as JSON text. -/
def text (layout : Layout) (v : Value) : String :=
  String.ofList (write layout 0 v)

end DesignGraph.Json
