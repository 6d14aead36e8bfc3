import DesignGraph.Text.Blank
import DesignGraph.Text.Hex
import DesignGraph.Text.WordChar
/-!
# Handlers

A tag may name what happens when its text is clicked: a name with arguments in round brackets, or
a single argument. Arguments are literals: numbers, texts, `True`, `False`, `None` and `...`, and
tuples, sets and tables of them.

## Main definitions

* `DesignGraph.Screen.Literal.Token`, `DesignGraph.Screen.Literal.tokens?` — the parts of a literal.
* `DesignGraph.Screen.Literal.Shape` — what counts about a literal inside of another one.
* `DesignGraph.Screen.isLiteral` — whether a text is a literal.
* `DesignGraph.Screen.isHandler` — whether a text describes a handler.
-/

namespace DesignGraph.Screen

namespace Literal

/-! ## Tokens -/

/-- A part of a literal. -/
inductive Token where
  | number (isImaginary : Bool)
  /-- A text in quotes, or a row of bytes. -/
  | quoted (isBytes : Bool)
  | name (cs : List Char)
  | ellipsis
  | mark (c : Char)
  /-- The end of a line outside of brackets. -/
  | lineEnd
  deriving DecidableEq, Repr

/-- Digits, between which single underscores may stand, and what follows them. -/
def digits (isDigit : Char → Bool) : List Char → List Char × List Char
  | [] => ([], [])
  | c :: rest =>
    let (more, after) := digits isDigit rest
    if isDigit c then (c :: more, after)
    else if c = '_' ∧ rest.head?.any isDigit then (more, after)
    else ([], c :: rest)

/-- Whether a character can stand in a name. -/
def isNameChar (c : Char) : Bool :=
  c.isAlphanum || c == '_' || 0x7f < c.toNat

/-- What follows a number, which no character of a name may do. -/
def closedNumber (isImaginary : Bool) (rest : List Char) : Option (Token × List Char) :=
  if rest.head?.any isNameChar then none else some (.number isImaginary, rest)

/-- A number with another base than ten, after its marker. -/
def radixNumber (isDigit : Char → Bool) (cs : List Char) : Option (Token × List Char) :=
  let (ds, rest) := digits isDigit (if cs.head? = some '_' then cs.drop 1 else cs)
  if ds.isEmpty then none else closedNumber false rest

/-- The digits at the start, unless an underscore comes first. -/
def plainDigits (cs : List Char) : List Char × List Char :=
  if cs.head? = some '_' then ([], cs) else digits Char.isDigit cs

/-- The rest behind an exponent, where one stands. -/
def afterExponent? (cs : List Char) : Option (List Char) :=
  match cs with
  | c :: rest =>
    if c = 'e' ∨ c = 'E' then
      let rest := if rest.head? = some '+' ∨ rest.head? = some '-' then rest.drop 1 else rest
      let (ds, rest) := plainDigits rest
      if ds.isEmpty then none else some rest
    else none
  | [] => none

/-- A decimal number. Only a number with a fraction, an exponent or an imaginary unit may start
with a zero that does not count. -/
def decimalNumber (cs : List Char) : Option (Token × List Char) :=
  let (whole, rest) := plainDigits cs
  let (fraction, rest, isWhole) := match rest with
    | '.' :: after => let (ds, rest) := plainDigits after; (ds, rest, false)
    | rest => ([], rest, true)
  let (rest, isWhole) := match afterExponent? rest with
    | some rest => (rest, false)
    | none => (rest, isWhole)
  if whole.isEmpty && fraction.isEmpty then none
  else
    match rest with
    | 'j' :: rest | 'J' :: rest => closedNumber true rest
    | rest =>
      if isWhole && whole.head? == some '0' && whole.any (· != '0') then none
      else closedNumber false rest

/-- A number. -/
def number : List Char → Option (Token × List Char)
  | '0' :: 'x' :: rest | '0' :: 'X' :: rest => radixNumber (fun c => (Hex.value? c).isSome) rest
  | '0' :: 'o' :: rest | '0' :: 'O' :: rest => radixNumber (fun c => '0' ≤ c && c ≤ '7') rest
  | '0' :: 'b' :: rest | '0' :: 'B' :: rest => radixNumber (fun c => c == '0' || c == '1') rest
  | cs => decimalNumber cs

/-- Whether what stands behind a backslash in a text can stand there: where digits of a code point
or a name of a character are asked for, they must be there. -/
def isEscape (isBytes : Bool) : List Char → Bool
  | 'x' :: rest => (rest.take 2).length == 2 && (rest.take 2).all fun d => (Hex.value? d).isSome
  | 'u' :: rest =>
    isBytes || (rest.take 4).length == 4 && (rest.take 4).all fun d => (Hex.value? d).isSome
  | 'U' :: rest =>
    isBytes || (rest.take 8).length == 8 && (Hex.number? (rest.take 8)).any (· ≤ 0x10ffff)
  | 'N' :: rest =>
    isBytes ||
      match rest with
      | brace :: name =>
        brace.toNat == 0x7b && name.head?.any Char.isAlpha &&
          (name.dropWhile fun c => c.isAlphanum || c == ' ' || c == '-').head?.any
            (·.toNat == 0x7d)
      | [] => false
  | [] => false
  | _ => true

/-- How a text is quoted. -/
structure Quoting where
  quote : Char
  /-- Whether three quotes stand at both ends, so that line ends are text. -/
  isTriple : Bool
  /-- Whether backslashes are text. -/
  isRaw : Bool
  isBytes : Bool

/-- What follows the closing quote; `escaped` tells that the first character stands behind a
backslash. -/
def afterQuoted? (q : Quoting) (escaped : Bool) : List Char → Option (List Char)
  | [] => none
  | c :: rest =>
    if q.isBytes && 0x7f < c.toNat then none
    else if escaped then
      if q.isRaw || isEscape q.isBytes (c :: rest) then afterQuoted? q false rest else none
    else if c = '\\' then afterQuoted? q true rest
    else if c = q.quote && !q.isTriple then some rest
    else if c = q.quote && rest.take 2 == [c, c] then some (rest.drop 2)
    else if c = '\n' && !q.isTriple then none
    else afterQuoted? q false rest

/-- A text in quotes behind the letters that tell how to read it. -/
def quoted (letters : List Char) (quote : Char) (rest : List Char) :
    Option (Token × List Char) :=
  let letters := letters.map Char.toLower
  if [[], ['r'], ['u'], ['b'], ['b', 'r'], ['r', 'b']].contains letters then
    let isTriple := rest.take 2 == [quote, quote]
    let isBytes := letters.contains 'b'
    (afterQuoted? ⟨quote, isTriple, letters.contains 'r', isBytes⟩ false
      (if isTriple then rest.drop 2 else rest)).map fun rest => (.quoted isBytes, rest)
  else none

/-- A name, or a text in quotes behind letters. -/
def nameOrQuoted (cs : List Char) : Option (Token × List Char) :=
  let name := cs.takeWhile isNameChar
  match cs.dropWhile isNameChar with
  | '\'' :: rest => quoted name '\'' rest
  | '"' :: rest => quoted name '"' rest
  | rest => if name.isEmpty then none else some (.name name, rest)

/-- The token at the start of a text that starts with no white space. -/
def token? (cs : List Char) : Option (Token × List Char) :=
  match cs with
  | '.' :: '.' :: '.' :: rest => some (.ellipsis, rest)
  | '.' :: _ => number cs
  | c :: rest =>
    if c.isDigit then number cs
    else if "()\x7b\x7d,:+-".toList.contains c then some (.mark c, rest)
    else nameOrQuoted cs
  | [] => none

/-- Whether a line starts with blanks in front of a token. -/
def isIndented (line : List Char) : Bool :=
  let isGap (c : Char) : Bool := c == ' ' || c == '\t' || c == '\x0c'
  line.head?.any isGap && (line.dropWhile isGap).head?.any fun c => c != '#' && c != '\n'

/-- The tokens of a text with `depth` open brackets; `bound` bounds the number of steps, of which
every one takes a character, and `fresh` tells that the line holds no token yet. A line that
starts behind another one must not be indented. -/
def tokensUpTo : (bound depth : Nat) → (fresh : Bool) → List Char → Option (List Token)
  | 0, _, _, _ => none
  | _, _, _, [] => some []
  | bound + 1, depth, fresh, c :: rest =>
    if c = ' ' ∨ c = '\t' ∨ c = '\x0c' then tokensUpTo bound depth fresh rest
    else if c = '#' then tokensUpTo bound depth fresh (rest.dropWhile (· != '\n'))
    else if c = '\\' then
      match rest with
      | '\n' :: rest =>
        if depth = 0 ∧ fresh ∧ isIndented rest then none else tokensUpTo bound depth fresh rest
      | _ => none
    else if c = '\n' then
      if depth = 0 ∧ isIndented rest then none
      else if depth = 0 ∧ !fresh then (tokensUpTo bound depth true rest).map (.lineEnd :: ·)
      else tokensUpTo bound depth fresh rest
    else
      match token? (c :: rest) with
      | none => none
      | some (token, rest) =>
        let depth := match token with
          | .mark c =>
            if "(\x7b".toList.contains c then depth + 1
            else if ")\x7d".toList.contains c then depth - 1
            else depth
          | _ => depth
        (tokensUpTo bound depth false rest).map (token :: ·)

/-- The tokens of a text. -/
def tokens? (cs : List Char) : Option (List Token) :=
  tokensUpTo (cs.length + 1) 0 true cs

/-! ## Shapes -/

/-- What counts about a literal inside of another one: the parts of a number that a sign or a sum
asks for, and whether it can be a member of a set or a key of a table. -/
inductive Shape where
  | number (isSigned isImaginary : Bool)
  | other (isKey : Bool)
  deriving DecidableEq, Repr

/-- Whether a literal can be a member of a set or a key of a table. -/
def Shape.isKey : Shape → Bool
  | .number .. => true
  | .other isKey => isKey

/-- A number with a sign in front; nothing else takes one, and no number takes two. -/
def Shape.signed? : Shape → Option Shape
  | .number false isImaginary => some (.number true isImaginary)
  | _ => none

/-- The sum of two literals: a real number, which may have a sign, and an imaginary one without
a sign. -/
def Shape.sum? : Shape → Shape → Option Shape
  | .number _ false, .number false true => some (.other true)
  | _, _ => none

/-- What follows the texts in quotes at the start, which are all of one sort. -/
def afterQuotes? (isBytes : Bool) : List Token → Option (List Token)
  | .quoted sort :: rest => if sort = isBytes then afterQuotes? isBytes rest else none
  | rest => some rest

mutual

/-- The literal at the start, which may be a sum; `bound` bounds the depth of the recursion. -/
def shape? : (bound : Nat) → List Token → Option (Shape × List Token)
  | 0, _ => none
  | bound + 1, ts => do
    let (left, rest) ← operand? bound ts
    match rest with
    | .mark c :: after =>
      if c = '+' ∨ c = '-' then
        let (right, rest) ← operand? bound after
        return (← left.sum? right, rest)
      else return (left, rest)
    | rest => return (left, rest)

/-- The part of a sum at the start. -/
def operand? : (bound : Nat) → List Token → Option (Shape × List Token)
  | 0, _ => none
  | bound + 1, ts =>
    match ts with
    | .number isImaginary :: rest => some (.number false isImaginary, rest)
    | .quoted isBytes :: rest => (afterQuotes? isBytes rest).map (.other true, ·)
    | .ellipsis :: rest => some (.other true, rest)
    | .name cs :: rest =>
      if ["True".toList, "False".toList, "None".toList].contains cs then some (.other true, rest)
      else if cs = "set".toList then
        match rest with
        | .mark '(' :: .mark ')' :: rest => some (.other false, rest)
        | _ => none
      else none
    | .mark c :: rest =>
      if c = '+' ∨ c = '-' then do
        let (shape, rest) ← operand? bound rest
        return (← shape.signed?, rest)
      else if c = '(' then
        match rest with
        | .mark ')' :: rest => some (.other true, rest)
        | rest => do
          let (first, rest) ← shape? bound rest
          match rest with
          | .mark ')' :: rest => return (first, rest)
          | rest =>
            let (others, rest) ← members? bound ')' rest
            return (.other (first.isKey && others.all Shape.isKey), rest)
      else if c.toNat = 0x7b then
        match rest with
        | .mark '\x7d' :: rest => some (.other false, rest)
        | rest => do
          let (first, rest) ← shape? bound rest
          match rest with
          | .mark ':' :: rest =>
            let (_, rest) ← shape? bound rest
            let rest ← entries? bound rest
            if first.isKey then return (.other false, rest) else none
          | rest =>
            let (others, rest) ← members? bound '\x7d' rest
            if first.isKey && others.all Shape.isKey then return (.other false, rest) else none
      else none
    | _ => none

/-- The literals behind a first one, each behind a comma, up to the closing bracket; a comma may
stand in front of it too. -/
def members? : (bound : Nat) → (close : Char) → List Token → Option (List Shape × List Token)
  | 0, _, _ => none
  | bound + 1, close, ts =>
    match ts with
    | .mark c :: rest =>
      if c = close then some ([], rest)
      else if c = ',' then
        match rest with
        | .mark d :: after =>
          if d = close then some ([], after)
          else do
            let (shape, rest) ← shape? bound rest
            let (shapes, rest) ← members? bound close rest
            return (shape :: shapes, rest)
        | rest => do
          let (shape, rest) ← shape? bound rest
          let (shapes, rest) ← members? bound close rest
          return (shape :: shapes, rest)
      else none
    | _ => none

/-- The entries of a table behind the first one, up to the closing bracket. -/
def entries? : (bound : Nat) → List Token → Option (List Token)
  | 0, _ => none
  | bound + 1, ts =>
    match ts with
    | .mark '\x7d' :: rest => some rest
    | .mark ',' :: .mark '\x7d' :: rest => some rest
    | .mark ',' :: rest => do
      let (key, rest) ← shape? bound rest
      match rest with
      | .mark ':' :: rest =>
        let (_, rest) ← shape? bound rest
        if key.isKey then entries? bound rest else none
      | _ => none
    | _ => none

end

/-- Whether nothing but line ends is left. -/
def isDone (ts : List Token) : Bool :=
  ts.all (· == .lineEnd)

/-- Whether the rest of a row of literals without brackets is well formed. -/
def isRow : (bound : Nat) → List Token → Bool
  | 0, _ => false
  | bound + 1, ts =>
    match ts with
    | .mark ',' :: rest =>
      isDone rest ||
        match shape? (bound + 1) rest with
        | some (_, rest) => isRow bound rest
        | none => false
    | rest => isDone rest

end Literal

/-- A text whose lines all end in the same way. -/
def withLineEnds : List Char → List Char
  | [] => []
  | '\r' :: '\n' :: rest => '\n' :: withLineEnds rest
  | c :: rest => (if c = '\r' then '\n' else c) :: withLineEnds rest

/-- Whether a text is a literal, or a row of literals. -/
def isLiteral (cs : List Char) : Bool :=
  let cs := withLineEnds (cs.dropWhile fun c => c == ' ' || c == '\t')
  match if cs.contains '\x00' then none else Literal.tokens? cs with
  | some ts =>
    let bound := 4 * ts.length + 4
    match Literal.shape? bound ts with
    | some (_, rest) => Literal.isRow bound rest
    | none => false
  | none => false

/-- Whether a text describes a handler: a name, a name with arguments, or a literal. -/
def isHandler (cs : List Char) : Bool :=
  let isPart (c : Char) : Bool := isWordChar c || c == '.'
  match cs.dropWhile isPart with
  | [] => true
  | '(' :: rest =>
    if rest.getLast? = some ')' ∧ !rest.contains '\n' then isLiteral ('(' :: rest)
    else isLiteral cs
  | _ => isLiteral cs

end DesignGraph.Screen
