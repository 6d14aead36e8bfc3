import DesignGraph.Value.Basic
import DesignGraph.Number.Decimal
import DesignGraph.Text.Hex
import DesignGraph.Text.Printable
/-!
# Literal text

The literal text of a value: texts in quotes with escapes, `True`, `False` and `None`, numbers so
that integers and doubles can be told apart, lists in brackets and objects in braces. It stands
where a value of any kind is put into markup or a style rule unchanged.

## Main definitions

* `DesignGraph.Literal.quote` — a text in quotes.
* `DesignGraph.Value.literal` — the literal text of a value.
* `DesignGraph.Value.display` — the same, except that a text by itself stands as it is.
-/

namespace DesignGraph

namespace Literal

/-- A character inside a text that is quoted with `mark`. -/
def escapeChar (mark c : Char) : List Char :=
  if c = mark ∨ c = '\\' then ['\\', c]
  else if c = '\n' then ['\\', 'n']
  else if c = '\r' then ['\\', 'r']
  else if c = '\t' then ['\\', 't']
  else if isPrintable c then [c]
  else if c.toNat < 0x100 then '\\' :: 'x' :: Hex.text 2 c.toNat
  else if c.toNat < 0x10000 then '\\' :: 'u' :: Hex.text 4 c.toNat
  else '\\' :: 'U' :: Hex.text 8 c.toNat

/-- The mark that quotes a text: an apostrophe, unless the text holds one and no double quote. -/
def markOf (s : List Char) : Char :=
  if s.contains '\'' && !s.contains '"' then '"' else '\''

/-- A text in quotes. -/
def quote (s : String) : String :=
  let mark := markOf s.toList
  String.ofList (mark :: s.toList.flatMap (escapeChar mark) ++ [mark])

end Literal

namespace Value

mutual

/-- The literal text of a value. -/
def literal : Value → String
  | .null => "None"
  | .bool b => if b then "True" else "False"
  | .int i => Decimal.intText i
  | .float x => DigitLayout.literal.number x
  | .nan _ => DigitLayout.literal.number Double.nan
  | .str s => Literal.quote s
  | .list items => "[" ++ ", ".intercalate (literalItems items) ++ "]"
  | .obj fields => "\x7b" ++ ", ".intercalate (literalFields fields) ++ "\x7d"

/-- The literal texts of the items of a list. -/
def literalItems : List Value → List String
  | [] => []
  | v :: rest => literal v :: literalItems rest

/-- The literal texts of the fields of an object. -/
def literalFields : List (String × Value) → List String
  | [] => []
  | (k, v) :: rest => (Literal.quote k ++ ": " ++ literal v) :: literalFields rest

end

/-- The text of a value where it is shown: a text as it is, any other value as its literal. -/
def display : Value → String
  | .str s => s
  | v => v.literal

end Value

end DesignGraph
