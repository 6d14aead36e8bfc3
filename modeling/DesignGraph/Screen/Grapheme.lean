import DesignGraph.Screen.CellWidth
/-!
# Graphemes

A grapheme is what is drawn in one place of a screen: a character with the marks, selectors and
joined characters behind it. Text is cut between graphemes only.

## Main definitions

* `DesignGraph.Screen.graphemes` — the graphemes of a text.
* `DesignGraph.Screen.fit` — a text cut off or filled up to a number of cells.
* `DesignGraph.Screen.fold` — a text in parts that fit a number of cells.
-/

namespace DesignGraph.Screen

/-- Characters that are drawn in one place, and the cells of that place. -/
structure Grapheme where
  chars : List Char
  cells : Nat
  deriving DecidableEq, Repr

/-- A grapheme with one more character, which adds `cells` cells to its place. -/
def Grapheme.add (c : Char) (cells : Nat) (g : Grapheme) : Grapheme :=
  ⟨g.chars ++ [c], g.cells + cells⟩

/-- The graphemes of a text that goes on with the grapheme `g`; `last` and `joined` are as in
`widthAfter`. -/
def graphemesAfter (g : Grapheme) (last : Option Char) (joined : Bool) :
    List Char → List Grapheme
  | [] => [g]
  | c :: rest =>
    if joined then graphemesAfter (g.add c 0) last false rest
    else if c = joiner then graphemesAfter (g.add c 0) last true rest
    else if c = emojiSelector then
      if last.any isWidened then graphemesAfter (g.add c 1) none false rest
      else graphemesAfter (g.add c 0) last false rest
    else if cellWidth c = 0 then graphemesAfter (g.add c 0) last false rest
    else g :: graphemesAfter ⟨[c], cellWidth c⟩ (some c) false rest

/-- The graphemes of a text. A text that starts with a mark starts with an empty place. -/
def graphemes : List Char → List Grapheme
  | [] => []
  | c :: rest =>
    graphemesAfter ⟨[c], cellWidth c⟩ (if cellWidth c = 0 then none else some c) false rest

/-! ## Cutting -/

/-- So many spaces. -/
def spaces (count : Nat) : List Char :=
  List.replicate count ' '

/-- As many graphemes as fit; a space stands for half of a wide one. -/
def cropGraphemes (limit : Nat) : List Grapheme → List Char
  | [] => []
  | g :: rest =>
    if limit = 0 then []
    else if g.cells ≤ limit then g.chars ++ cropGraphemes (limit - g.cells) rest
    else [' ']

/-- A text cut off or filled up with spaces to a number of cells. -/
def fit (limit : Nat) (cs : List Char) : List Char :=
  if limit = 0 then []
  else if width cs ≤ limit then cs ++ spaces (limit - width cs)
  else cropGraphemes limit (graphemes cs)

/-- The parts of a row of graphemes, each as long as fits a line; the first one goes on with a
line that has `used` cells already. -/
def foldGraphemes (limit used : Nat) : List Grapheme → List (List Char)
  | [] => [[]]
  | g :: rest =>
    if limit < used + g.cells then
      match foldGraphemes limit g.cells rest with
      | part :: parts => [] :: (g.chars ++ part) :: parts
      | [] => [g.chars]
    else
      match foldGraphemes limit (used + g.cells) rest with
      | part :: parts => (g.chars ++ part) :: parts
      | [] => [g.chars]

/-- The parts of a text, each as long as fits a line. -/
def fold (limit : Nat) (cs : List Char) : List (List Char) :=
  foldGraphemes limit 0 (graphemes cs)

end DesignGraph.Screen
