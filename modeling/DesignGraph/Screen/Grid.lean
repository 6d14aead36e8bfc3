import DesignGraph.Screen.Markup
import DesignGraph.Screen.Wrap
/-!
# Grids

Tables with a title and lines around every cell, as wide as their content but no wider than the
screen. When the content is too wide, the widest columns give up room first, all of them down to
the width of the next one, and cells are wrapped.

## Main definitions

* `DesignGraph.Screen.Grid` — a table.
* `DesignGraph.Screen.fitWidths` — the widths of columns that fit a screen.
* `DesignGraph.Screen.Grid.render` — the lines of a table.
-/

namespace DesignGraph.Screen

/-- A table. -/
structure Grid where
  title : String
  headers : List String
  rows : List (List String)

/-! ## Widths of columns -/

/-- The quotient rounded to the nearest integer, a half to the even neighbour. -/
def roundedShare (total count : Nat) : Nat :=
  let quotient := total / count
  let rest := 2 * (total % count)
  if count < rest ∨ (rest = count ∧ quotient % 2 = 1) then quotient + 1 else quotient

/-- Takes `excess` cells from the columns of width `widest`, in equal shares and at most `limit`
from each; `count` is the number of these columns. -/
def takeShares (widest limit : Nat) : (excess count : Nat) → List Nat → List Nat
  | _, _, [] => []
  | excess, count, width :: rest =>
    if width = widest ∧ 0 < count then
      let share := min limit (roundedShare excess count)
      (width - share) :: takeShares widest limit (excess - share) (count - 1) rest
    else width :: takeShares widest limit excess count rest

/-- Narrows the widest columns, at most to the width of the next one. -/
def narrow (excess : Nat) (widths : List Nat) : List Nat :=
  let widest := widths.foldl max 0
  let next := (widths.filter (· != widest)).foldl max 0
  takeShares widest (min excess (widest - next)) excess (widths.count widest) widths

/-- The widths of columns that together are no wider than `room`; every round narrows the widest
columns, and `rounds` bounds the number of rounds. -/
def fitWidthsIn (room : Nat) : (rounds : Nat) → List Nat → List Nat
  | 0, widths => widths
  | rounds + 1, widths =>
    let excess := total widths - room
    if excess = 0 then widths else fitWidthsIn room rounds (narrow excess widths)

/-- The widths of columns that together are no wider than `room`. A round makes the widest columns
as narrow as the next ones, so there are no more rounds than columns. -/
def fitWidths (room : Nat) (widths : List Nat) : List Nat :=
  fitWidthsIn room (widths.length + 1) widths

/-! ## Lines -/

/-- The marks of a line across a table: at its start, between two columns and at its end. -/
structure Marks where
  first : Char
  inner : Char
  last : Char

/-- A line across a table with the given parts in its columns. -/
def Marks.line (marks : Marks) (parts : List (List Char)) : List Char :=
  marks.first :: ([marks.inner].intercalate parts ++ [marks.last])

/-- A rule across a table. -/
def Marks.rule (marks : Marks) (stroke : Char) (widths : List Nat) : List Char :=
  marks.line (widths.map fun width => List.replicate width stroke)

/-- A line of a cell with a space at both sides. -/
def cellLine (width : Nat) (line : Styled) : List Char :=
  let inner := adjust (width - 2) line.segments
  (adjust width (adjust width ([' '] :: (inner ++ [[' ']])))).flatten

/-- A line of a title, which may not leave the screen. -/
def titleLine (screen : Nat) (line : Styled) : List Char :=
  if screen < total (line.segments.map width) then (cropSegments screen line.segments).flatten
  else line.chars

/-- The lines of a row from those of its cells. The cells of a header stand at its bottom, others
at the top. -/
def rowLines (marks : Marks) (atBottom : Bool) (widths : List Nat) (cells : List (List Styled)) :
    List (List Char) :=
  let blocks := List.zipWith (fun width lines => lines.map (cellLine width)) widths cells
  let height := (blocks.map List.length).foldl max 1
  let filled := List.zipWith (fun width block =>
    let blank := List.replicate (height - block.length) (spaces width)
    if atBottom then blank ++ block else block ++ blank) widths blocks
  (List.range height).map fun n => marks.line (filled.map fun block => block.getD n [])

/-! ## Tables -/

/-- The width of a column: that of its longest line with a space at both sides. -/
def columnWidth (room : Nat) (cells : List Styled) : Nat :=
  max 1 (min room ((cells.map fun cell => longestLine cell.chars + 2).foldl max 0))

/-- The cells of every column, where all rows have as many cells as the header. -/
def Grid.columns (grid : Grid) : List (List String) :=
  grid.headers.mapIdx fun n header => header :: grid.rows.map fun row => row.getD n ""

/-- The lines of the cells in the row at a position. -/
def rowAt (widths : List Nat) (columns : List (List Styled)) (position : Nat) :
    List (List Styled) :=
  List.zipWith (fun width column => (column.getD position ⟨[], []⟩).leftLines (width - 2)) widths
    columns

/-- The lines of a table that is no wider than `screen`. The texts are read column by column, and
the styles in the order of the lines. -/
def Grid.render (screen : Nat) (grid : Grid) : Except Fault (List String) := do
  let columns ← grid.columns.mapM (·.mapM Styled.ofMarkup)
  let title ← Styled.ofMarkup grid.title
  let borders := columns.length + 1
  let room := screen - borders
  let widths := fitWidths room (columns.map (columnWidth room))
  let title := title.centeredLines (total widths + borders)
  let rows := (List.range grid.rows.length).map fun n => rowAt widths columns (n + 1)
  title.forM Styled.check
  rows.forM fun row => row.forM fun cell => cell.forM Styled.check
  let lines :=
    title.map (titleLine screen) ++
    [Marks.rule ⟨'┏', '┳', '┓'⟩ '━' widths] ++
    rowLines ⟨'┃', '┃', '┃'⟩ true widths (rowAt widths columns 0) ++
    [Marks.rule ⟨'┡', '╇', '┩'⟩ '━' widths] ++
    rows.flatMap (rowLines ⟨'│', '│', '│'⟩ false widths) ++
    [Marks.rule ⟨'└', '┴', '┘'⟩ '─' widths]
  return lines.map String.ofList

end DesignGraph.Screen
