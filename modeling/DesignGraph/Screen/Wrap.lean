import DesignGraph.Screen.Styled
import DesignGraph.Text.Blank
/-!
# Wrapping

Text broken into lines that fit a number of cells. Lines are broken between words where that is
possible. A word that is too long for a line stands on a line of its own, and is either cut off
there or goes on in the next line.

## Main definitions

* `DesignGraph.Screen.words` — the words of a line, each with the white space behind it.
* `DesignGraph.Screen.breaks` — the positions where a line is broken.
* `DesignGraph.Screen.leftLines` — text in lines of a width, cut off where words are too long.
* `DesignGraph.Screen.centeredLines` — text in the middle of lines of a width.
-/

namespace DesignGraph.Screen

/-! ## Lines and words -/

/-- The lines of a text, which end at the characters that `isEnd` names. -/
def linesAt (isEnd : Char → Bool) : List Char → List (List Char)
  | [] => [[]]
  | c :: rest =>
    match linesAt isEnd rest with
    | [] => [[]]
    | line :: lines => if isEnd c then [] :: line :: lines else (c :: line) :: lines

/-- Whether a character ends a line where the width of a text is measured. -/
def endsLine (c : Char) : Bool :=
  [0x0a, 0x1c, 0x1d, 0x1e, 0x85, 0x2028, 0x2029].contains c.toNat

/-- The width of the longest line of a text. -/
def longestLine (cs : List Char) : Nat :=
  ((linesAt endsLine cs).map width).foldl max 0

/-- The white space at the start of a line, and its words, each with the white space behind it. -/
def splitWords : List Char → List Char × List (List Char)
  | [] => ([], [])
  | c :: rest =>
    let (space, words) := splitWords rest
    if isWhite c then (c :: space, words)
    else
      match space, words with
      | [], word :: words => ([], (c :: word) :: words)
      | space, words => ([], (c :: space) :: words)

/-- The words of a line, each with the white space behind it, the first one also with that before
it. -/
def words (cs : List Char) : List (List Char) :=
  match splitWords cs with
  | (space, word :: words) => (space ++ word) :: words
  | (_, []) => []

/-- A text without the white space at its end. -/
def trimEnd (cs : List Char) : List Char :=
  (cs.reverse.dropWhile isWhite).reverse

/-! ## Breaking lines -/

/-- The positions where the parts of a text start, of which the first one starts at `start`. -/
def startsFrom (start : Nat) : List (List Char) → List Nat
  | [] => []
  | part :: rest => start :: startsFrom (start + part.length) rest

/-- The positions where a line is broken from `start` on, where the given words come and `used`
cells are taken. A word stays on the line when it fits there without the white space behind it;
nothing is broken off at the start of the line. -/
def breaksFrom (folds : Bool) (limit : Nat) : (start used : Nat) → List (List Char) → List Nat
  | _, _, [] => []
  | start, used, word :: rest =>
    let size := width (trimEnd word)
    let next := start + word.length
    if used + size ≤ limit then breaksFrom folds limit next (used + width word) rest
    else
      let parts := if folds && limit < size then fold limit word else [word]
      (startsFrom start parts).filter (0 < ·) ++
        breaksFrom folds limit next (width (parts.getLastD [])) rest

/-- The positions where a line is broken. Words that are too long for a line are folded or left as
they are. -/
def breaks (folds : Bool) (limit : Nat) (line : List Char) : List Nat :=
  breaksFrom folds limit 0 0 (words line)

/-- The positions of a character, counted from `position` on. -/
def positionsOf (c : Char) (position : Nat) : List Char → List Nat
  | [] => []
  | d :: rest =>
    if d = c then position :: positionsOf c (position + 1) rest
    else positionsOf c (position + 1) rest

namespace Styled

/-- The lines of a text. -/
def lines (t : Styled) : List Styled :=
  (t.cutAt ((positionsOf '\n' 0 t.chars).flatMap fun n => [n, n + 1])).filter (·.chars != ['\n'])

/-- A line without as much of the white space at its end as is beyond the limit. -/
def shorten (limit : Nat) (t : Styled) : Styled :=
  let space := (t.chars.reverse.takeWhile isWhite).length
  t.crop (t.chars.length - min space (t.chars.length - limit))

/-- A part that ends with a tabulator, with spaces in its place up to the next multiple of eight
cells; the spans at its end go on. -/
def expandTab (column : Nat) (t : Styled) : Styled :=
  let cs := t.chars.dropLast ++ [' ']
  let used := column + width cs
  let count := (8 - used % 8) % 8
  let grow (span : Span) : Span :=
    if cs.length ≤ span.stop then { span with stop := span.stop + count } else span
  ⟨cs ++ spaces count, t.spans.map grow⟩

/-- Parts with their tabulators replaced by spaces. -/
def expandParts (column : Nat) : List Styled → List Styled
  | [] => []
  | part :: rest =>
    let part := if part.chars.getLast? = some '\t' then part.expandTab column else part
    part :: expandParts (column + width part.chars) rest

/-- A line with its tabulators replaced by spaces. -/
def expandTabs (t : Styled) : Styled :=
  if t.chars.contains '\t' then
    join (expandParts 0 (t.cutAt ((positionsOf '\t' 0 t.chars).map (· + 1))))
  else t

/-- The lines of a text when none may be longer than a limit. -/
def wrap (folds : Bool) (limit : Nat) (t : Styled) : List Styled :=
  t.lines.flatMap fun line =>
    let line := line.expandTabs
    (line.cutAt (breaks folds limit line.chars)).map (shorten limit)

/-! ## Lines of a width -/

/-- A line at the left end of a width, with an ellipsis where it is cut off. -/
def alignLeft (limit : Nat) (t : Styled) : Styled :=
  if limit < width t.chars then t.withChars (fit (limit - 1) t.chars ++ ['…'])
  else t.padRight (limit - width t.chars)

/-- A line in the middle of a width. -/
def alignCenter (limit : Nat) (t : Styled) : Styled :=
  let t := t.withChars (trimEnd t.chars)
  let t := if limit < width t.chars then t.withChars (fit limit t.chars) else t
  let t := t.padLeft ((limit - width t.chars) / 2)
  t.padRight (limit - width t.chars)

/-- Text in lines of a width, cut off where words are too long. -/
def leftLines (limit : Nat) (t : Styled) : List Styled :=
  (t.wrap false limit).map (alignLeft limit)

/-- Text in the middle of lines of a width. -/
def centeredLines (limit : Nat) (t : Styled) : List Styled :=
  (t.wrap true limit).map (alignCenter limit)

end Styled

end DesignGraph.Screen
