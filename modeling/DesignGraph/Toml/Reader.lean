import DesignGraph.Toml.Basic
import DesignGraph.Toml.Text
import DesignGraph.Toml.Moment
import DesignGraph.Number.Decimal
/-!
# Reading settings documents

TOML text as the entries of a document. A statement ends with its line, a comment reaches from a
hash mark to the end of the line, and the items of a list may stand on several lines.

## Main definitions

* `DesignGraph.Toml.number` — the number at the start of a text.
* `DesignGraph.Toml.item` — the item at the start of a text.
* `DesignGraph.Toml.statements` — all statements of a text.
* `DesignGraph.Toml.read?` — the entries of a document.
-/

namespace DesignGraph.Toml

/-! ## Numbers -/

/-- The digits at the start, where single underscores may stand between two of them, and what
follows. -/
def digits (isDigit : Char → Bool) : List Char → List Char × List Char
  | [] => ([], [])
  | c :: rest =>
    if !isDigit c then ([], c :: rest)
    else
      match rest with
      | '_' :: d :: more =>
        if isDigit d then
          let (ds, rest) := digits isDigit (d :: more)
          (c :: ds, rest)
        else ([c], rest)
      | rest =>
        let (ds, rest) := digits isDigit rest
        (c :: ds, rest)

/-- The number with the given digits. -/
def numberIn (base : Nat) (ds : List Char) : Nat :=
  ds.foldl (fun n c => n * base + (Hex.value? c).getD 0) 0

/-- Whether a character is a digit of a base up to sixteen. -/
def isDigitIn (base : Nat) (c : Char) : Bool :=
  (Hex.value? c).any (· < base)

/-- The base that a letter after a zero announces. -/
def baseOf? (c : Char) : Option Nat :=
  match c with
  | 'x' => some 16
  | 'o' => some 8
  | 'b' => some 2
  | _ => none

/-- The integer with a base marker at the start. -/
def radixInteger : List Char → Option (Item × List Char)
  | '0' :: c :: rest =>
    match baseOf? c with
    | none => none
    | some base =>
      match digits (isDigitIn base) rest with
      | ([], _) => none
      | (ds, rest) => some (.int (numberIn base ds), rest)
  | _ => none

/-- The sign at the start: whether it is a minus, and what follows. -/
def sign : List Char → Bool × List Char
  | '+' :: rest => (false, rest)
  | '-' :: rest => (true, rest)
  | cs => (false, cs)

/-- The digits before the point: a zero, or a row that starts with none. -/
def wholePart : List Char → List Char × List Char
  | '0' :: rest => (['0'], rest)
  | cs => digits Char.isDigit cs

/-- The digits behind a point at the start; none when no digit follows. -/
def fractionPart : List Char → List Char × List Char
  | '.' :: rest =>
    match digits Char.isDigit rest with
    | ([], _) => ([], '.' :: rest)
    | (ds, rest) => (ds, rest)
  | cs => ([], cs)

/-- The exponent at the start; none when no digit follows the letter and the sign. -/
def exponentPart : List Char → Option Int × List Char
  | [] => (none, [])
  | c :: rest =>
    if c = 'e' ∨ c = 'E' then
      let (negative, ds) := sign rest
      match digits Char.isDigit ds with
      | ([], _) => (none, c :: rest)
      | (ds, rest) =>
        let n : Int := numberIn 10 ds
        (some (if negative then -n else n), rest)
    else (none, c :: rest)

/-- The decimal number at the start: a double when it has a fraction or an exponent, else an
integer. -/
def decimalNumber (cs : List Char) : Option (Item × List Char) :=
  let (negative, cs) := sign cs
  match wholePart cs with
  | ([], _) => none
  | (whole, rest) =>
    let (fraction, rest) := fractionPart rest
    let (e, rest) := exponentPart rest
    if fraction.isEmpty && e.isNone then
      let n : Int := numberIn 10 whole
      some (.int (if negative then -n else n), rest)
    else
      let d : Decimal :=
        ⟨negative, numberIn 10 (whole ++ fraction), e.getD 0 - fraction.length⟩
      some (.float d.toDouble, rest)

/-- The infinity or NaN at the start. -/
def namedNumber (cs : List Char) : Option (Item × List Char) :=
  let (negative, rest) := sign cs
  if "inf".toList.isPrefixOf rest then some (.float (Double.infinity negative), rest.drop 3)
  else if "nan".toList.isPrefixOf rest then some (.float Double.nan, rest.drop 3)
  else none

/-- The number at the start. -/
def number (cs : List Char) : Option (Item × List Char) :=
  (radixInteger cs).or ((decimalNumber cs).or (namedNumber cs))

/-! ## Items -/

/-- What follows the comment at the start, if there is one. -/
def skipComment (cs : List Char) : Option (List Char) :=
  match cs with
  | '#' :: rest =>
    if (rest.takeWhile (· != '\n')).any isControl then none
    else some (rest.dropWhile (· != '\n'))
  | cs => some cs

/-- What follows the blanks, line ends and comments at the start. -/
def skipLines : Bool → List Char → Option (List Char)
  | _, [] => some []
  | true, c :: rest =>
    if c = '\n' then skipLines false rest
    else if isControl c then none
    else skipLines true rest
  | false, c :: rest =>
    if isSpace c || c == '\n' then skipLines false rest
    else if c = '#' then skipLines true rest
    else some (c :: rest)

/-- The truth value at the start. -/
def truth (cs : List Char) : Option (Item × List Char) :=
  if "true".toList.isPrefixOf cs then some (.bool true, cs.drop 4)
  else if "false".toList.isPrefixOf cs then some (.bool false, cs.drop 5)
  else none

/-- The item without items of its own at the start. -/
def simpleItem (cs : List Char) : Option (Item × List Char) :=
  if cs.head? == some '"' || cs.head? == some apostrophe then
    (text cs).map fun (s, rest) => (.text s, rest)
  else
    (truth cs).or (((moment cs).map fun (m, rest) => (.moment (String.ofList m), rest)).or
      (number cs))

mutual

/-- The item at the start; `depth` bounds the number of items inside one another and in a row. -/
def item : Nat → List Char → Option (Item × List Char)
  | 0, _ => none
  | depth + 1, cs =>
    match cs with
    | '[' :: rest =>
      match skipLines false rest with
      | none => none
      | some (']' :: rest) => some (.list [], rest)
      | some rest => (listItems depth rest).map fun (items, rest) => (.list items, rest)
    | '\x7b' :: rest =>
      match skip rest with
      | '\x7d' :: rest => some (.table [], rest)
      | rest =>
        match tableEntries depth rest with
        | none => none
        | some (entries, rest) => (tableOf? entries).map fun table => (table, rest)
    | cs => simpleItem cs

/-- The items of a list up to the closing bracket, with a comma behind the last one or not. -/
def listItems : Nat → List Char → Option (List Item × List Char)
  | 0, _ => none
  | depth + 1, cs =>
    match item depth cs with
    | none => none
    | some (first, rest) =>
      match skipLines false rest with
      | some (']' :: rest) => some ([first], rest)
      | some (',' :: rest) =>
        match skipLines false rest with
        | none => none
        | some (']' :: rest) => some ([first], rest)
        | some rest => (listItems depth rest).map fun (items, rest) => (first :: items, rest)
      | _ => none

/-- The entries of a table on one line up to the closing brace. -/
def tableEntries : Nat → List Char → Option (List (Key × Item) × List Char)
  | 0, _ => none
  | depth + 1, cs =>
    match key cs with
    | some (k, '=' :: rest) =>
      match item depth (skip rest) with
      | none => none
      | some (v, rest) =>
        let entry := (k, v)
        match skip rest with
        | '\x7d' :: rest => some ([entry], rest)
        | ',' :: rest =>
          (tableEntries depth (skip rest)).map fun (entries, rest) => (entry :: entries, rest)
        | _ => none
    | _ => none

end

/-! ## Documents -/

/-- The statement at the start. -/
def statement (cs : List Char) : Option (Statement × List Char) :=
  match cs with
  | '[' :: '[' :: rest =>
    match key (skip rest) with
    | some (k, ']' :: ']' :: rest) => some (.extendList k, rest)
    | _ => none
  | '[' :: rest =>
    match key (skip rest) with
    | some (k, ']' :: rest) => some (.openTable k, rest)
    | _ => none
  | cs =>
    match key cs with
    | some (k, '=' :: rest) =>
      (item (2 * rest.length + 1) (skip rest)).map fun (v, rest) => (.assign k v, rest)
    | _ => none

/-- What follows the line end at the start, after blanks and a comment; nothing at the end of the
text. -/
def lineEnd (cs : List Char) : Option (List Char) :=
  match skipComment (skip cs) with
  | some [] => some []
  | some ('\n' :: rest) => some rest
  | _ => none

/-- All statements of a text; every line of it counts against `bound`. -/
def statementsUpTo : Nat → List Char → Option (List Statement)
  | 0, _ => none
  | bound + 1, cs =>
    match skip cs with
    | [] => some []
    | '\n' :: rest => statementsUpTo bound rest
    | '#' :: rest =>
      match lineEnd ('#' :: rest) with
      | none => none
      | some rest => statementsUpTo bound rest
    | cs =>
      match statement cs with
      | none => none
      | some (first, rest) =>
        match lineEnd rest with
        | none => none
        | some rest => (statementsUpTo bound rest).map (first :: ·)

/-- All statements of a text. -/
def statements (cs : List Char) : Option (List Statement) :=
  statementsUpTo (cs.length + 1) cs

/-- A text in which every line ends with a single character. -/
def unifyLineEnds : List Char → List Char
  | '\r' :: '\n' :: rest => '\n' :: unifyLineEnds rest
  | c :: rest => c :: unifyLineEnds rest
  | [] => []

/-- The entries of the document with the given text, if it is well formed. -/
def read? (text : String) : Option Entries :=
  (statements (unifyLineEnds text.toList)).bind entriesOf?

end DesignGraph.Toml
