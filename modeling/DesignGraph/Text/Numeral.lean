import DesignGraph.Coercion
/-!
# Numerals

Numbers as people write them in settings and on command lines: white space around them is ignored,
single underscores may stand between digits, and infinity and NaN have names in either case.

## Main definitions

* `DesignGraph.Numeral.double?` — the double that a text stands for.
* `DesignGraph.Numeral.int?` — the integer that a text stands for.
-/

namespace DesignGraph.Numeral

/-- White space around a numeral: the blanks and the next-line control, but not the byte order
mark. -/
def isSpace (c : Char) : Bool :=
  (blankCodes.dropLast ++ [0x85]).contains c.toNat

/-- A text without the white space at its ends. -/
def trim (cs : List Char) : List Char :=
  ((cs.dropWhile isSpace).reverse.dropWhile isSpace).reverse

/-- A text without the underscores between two digits; others are not allowed. -/
def joinDigits? : List Char → Option (List Char)
  | [] => some []
  | c :: '_' :: d :: rest =>
    if isDecimalDigit c && isDecimalDigit d then (joinDigits? (d :: rest)).map (c :: ·) else none
  | c :: rest => if c = '_' then none else (joinDigits? rest).map (c :: ·)

/-- The double with the given name, in either case. -/
def named? (cs : List Char) : Option Float :=
  let (negative, name) := Coercion.splitSign cs
  let name := String.ofList (name.map Char.toLower)
  if name = "inf" ∨ name = "infinity" then some (Double.infinity negative)
  else if name = "nan" then some Double.nan
  else none

/-- The double that a text stands for. -/
def double? (text : String) : Option Float :=
  (joinDigits? (trim text.toList)).bind fun cs =>
    (named? cs).or ((Coercion.decimal? cs).map Decimal.toDouble)

/-- The integer that a text stands for: decimal digits after an optional sign. -/
def int? (text : String) : Option Int :=
  (joinDigits? (trim text.toList)).bind fun cs =>
    let (negative, cs) := Coercion.splitSign cs
    match Coercion.splitDigits cs with
    | ([], _) | (_, _ :: _) => none
    | (ds, []) =>
      let n : Int := Coercion.ofDigits ds
      some (if negative then -n else n)

end DesignGraph.Numeral
