import DesignGraph.Text.Hex
/-!
# Keys and texts in settings documents

Texts stand between quotes, on one line between single ones and on several between triple ones.
Between double quotes a backslash escapes, and at the end of a line it joins the line to the next
mark. Control characters have to be escaped.

## Main definitions

* `DesignGraph.Toml.text` — the text at the start, in any of the four forms.
* `DesignGraph.Toml.key` — the dotted key at the start.
-/

namespace DesignGraph.Toml

/-! ## Characters -/

/-- The single quote. -/
def apostrophe : Char := '\x27'

/-- Blanks on a line. -/
def isSpace (c : Char) : Bool :=
  c == ' ' || c == '\t'

/-- What follows the blanks at the start. -/
def skip (cs : List Char) : List Char :=
  cs.dropWhile isSpace

/-- Characters that may not stand unescaped on a line. -/
def isControl (c : Char) : Bool :=
  (c.toNat < 0x20 && c != '\t') || c.toNat == 0x7f

/-- Characters that may not stand unescaped in a text of several lines. -/
def isControlButNewline (c : Char) : Bool :=
  isControl c && c != '\n'

/-- Characters of keys without quotes. -/
def isBare (c : Char) : Bool :=
  c.isAlphanum || c == '-' || c == '_'

/-! ## Literal texts -/

/-- The text up to a single quote. -/
def literal : List Char → Option (List Char × List Char)
  | [] => none
  | c :: rest =>
    if c = apostrophe then some ([], rest)
    else if isControl c then none
    else (literal rest).map fun (cs, rest) => (c :: cs, rest)

/-- The text up to three single quotes. -/
def longLiteral : List Char → Option (List Char × List Char)
  | [] => none
  | c :: rest =>
    if [apostrophe, apostrophe, apostrophe].isPrefixOf (c :: rest) then some ([], rest.drop 2)
    else if isControlButNewline c then none
    else (longLiteral rest).map fun (cs, rest) => (c :: cs, rest)

/-! ## Texts with escapes -/

/-- A part of a text with escapes. -/
inductive Piece where
  /-- A character that stands for itself. -/
  | plain (c : Char)
  /-- A character that was escaped. -/
  | escaped (c : Char)
  /-- A backslash before the blanks at the end of a line. -/
  | splice

/-- The character that a letter after a backslash stands for. -/
def simpleEscape? (c : Char) : Option Char :=
  match c with
  | 'b' => some '\x08'
  | 't' => some '\t'
  | 'n' => some '\n'
  | 'f' => some '\x0c'
  | 'r' => some '\r'
  | '"' => some '"'
  | '\\' => some '\\'
  | _ => none

/-- The character with a given number in hexadecimal digits. -/
def numbered? (digits : List Char) : Option Char :=
  (Hex.number? digits).bind fun n => if n.isValidChar then some (Char.ofNat n) else none

/-- The parts of a text up to its closing quote, a single or a triple one. -/
def pieces (long : Bool) : List Char → Option (List Piece × List Char)
  | [] => none
  | '"' :: rest =>
    if !long then some ([], rest)
    else if ['"', '"'].isPrefixOf rest then some ([], rest.drop 2)
    else (pieces long rest).map fun (ps, rest) => (.plain '"' :: ps, rest)
  | '\\' :: 'u' :: a :: b :: c :: d :: rest =>
    match numbered? [a, b, c, d] with
    | none => none
    | some c => (pieces long rest).map fun (ps, rest) => (.escaped c :: ps, rest)
  | '\\' :: 'U' :: a :: b :: c :: d :: e :: f :: g :: h :: rest =>
    match numbered? [a, b, c, d, e, f, g, h] with
    | none => none
    | some c => (pieces long rest).map fun (ps, rest) => (.escaped c :: ps, rest)
  | '\\' :: c :: rest =>
    if long && (isSpace c || c == '\n') then
      (pieces long (c :: rest)).map fun (ps, rest) => (.splice :: ps, rest)
    else
      match simpleEscape? c with
      | none => none
      | some c => (pieces long rest).map fun (ps, rest) => (.escaped c :: ps, rest)
  | c :: rest =>
    if (if long then isControlButNewline c else isControl c) || c == '\\' then none
    else (pieces long rest).map fun (ps, rest) => (.plain c :: ps, rest)

/-- Where the joining of lines stands. -/
inductive Joining where
  /-- Inside of a line. -/
  | inside
  /-- Behind a backslash, before the end of the line. -/
  | lineEnd
  /-- Before the first mark of the next lines. -/
  | indent

/-- The characters of a text, with lines joined where a backslash ends them; a backslash at the end
of a line may be followed by blanks only. -/
def join? : Joining → List Piece → Option (List Char)
  | .lineEnd, [] => none
  | _, [] => some []
  | .lineEnd, .plain c :: rest =>
    if c = '\n' then join? .indent rest
    else if isSpace c then join? .lineEnd rest
    else none
  | .lineEnd, _ => none
  | .indent, .plain c :: rest =>
    if isSpace c || c == '\n' then join? .indent rest
    else (join? .inside rest).map (c :: ·)
  | .inside, .plain c :: rest => (join? .inside rest).map (c :: ·)
  | _, .escaped c :: rest => (join? .inside rest).map (c :: ·)
  | _, .splice :: rest => join? .lineEnd rest

/-- The text with escapes up to its closing quote. -/
def basic (long : Bool) (cs : List Char) : Option (List Char × List Char) :=
  (pieces long cs).bind fun (ps, rest) => (join? .inside ps).map fun cs => (cs, rest)

/-! ## Texts and keys -/

/-- The text without the line end right behind the opening quotes. -/
def dropNewline : List Char → List Char
  | '\n' :: rest => rest
  | cs => cs

/-- Up to two quotes may stand right before the three that close a text: they belong to it. -/
def withLastQuotes (quote : Char) : List Char × List Char → List Char × List Char
  | (cs, rest) =>
    let extra := (rest.take 2).takeWhile (· == quote)
    (cs ++ extra, rest.drop extra.length)

/-- The text on one line at the start. -/
def lineText : List Char → Option (List Char × List Char)
  | [] => none
  | c :: rest =>
    if c = '"' then basic false rest
    else if c = apostrophe then literal rest
    else none

/-- The text at the start. -/
def text (cs : List Char) : Option (String × List Char) :=
  let body :=
    if ['"', '"', '"'].isPrefixOf cs then
      (basic true (dropNewline (cs.drop 3))).map (withLastQuotes '"')
    else if [apostrophe, apostrophe, apostrophe].isPrefixOf cs then
      (longLiteral (dropNewline (cs.drop 3))).map (withLastQuotes apostrophe)
    else lineText cs
  body.map fun (cs, rest) => (String.ofList cs, rest)

/-- The part of a key at the start: bare characters or a text on one line. -/
def keyPart (cs : List Char) : Option (String × List Char) :=
  match cs.takeWhile isBare with
  | [] => (lineText cs).map fun (part, rest) => (String.ofList part, rest)
  | part => some (String.ofList part, cs.dropWhile isBare)

/-- The dotted key at the start, and what follows the blanks behind it; `bound` bounds the number
of its parts. -/
def keyUpTo : Nat → List Char → Option (List String × List Char)
  | 0, _ => none
  | bound + 1, cs =>
    match keyPart cs with
    | none => none
    | some (part, rest) =>
      match skip rest with
      | '.' :: rest => (keyUpTo bound (skip rest)).map fun (parts, rest) => (part :: parts, rest)
      | rest => some ([part], rest)

/-- The dotted key at the start, and what follows the blanks behind it. -/
def key (cs : List Char) : Option (List String × List Char) :=
  keyUpTo (cs.length + 1) cs

end DesignGraph.Toml
