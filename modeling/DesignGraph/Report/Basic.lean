import DesignGraph.Json.Writer
/-!
# Reports

What commands print about a design: short forms of values, tables with aligned columns, and an
envelope around results for other programs.

## Main definitions

* `DesignGraph.Report.clip` — a text of limited length.
* `DesignGraph.Report.excerpt` — the short form of a value.
* `DesignGraph.Report.columns` — a table with aligned columns.
* `DesignGraph.Report.envelope` — a result for other programs.
-/

namespace DesignGraph.Report

/-- What stands for a missing value. -/
def missing : String := "—"

/-- How long the short form of a value is unless something else is asked for. -/
def excerptLength : Int := 60

/-- A text of at most `limit` characters, where an ellipsis stands for what is left out. A limit
below one counts from the end of the text. -/
def clip (limit : Int) (s : String) : String :=
  let cs := s.toList
  if cs.length ≤ limit then s
  else
    let kept := if 0 < limit then limit - 1 else cs.length + limit - 1
    String.ofList (cs.take kept.toNat ++ ['…'])

/-- The short form of a value on one line: a text as it is, any other value as JSON. -/
def excerpt (limit : Int) : Value → String
  | .null => missing
  | .str s => clip limit s
  | v => clip limit (Json.text .line v)

/-- A cell filled up with spaces to the width of its column. -/
def pad (width : Nat) (cell : String) : String :=
  cell ++ String.ofList (List.replicate (width - cell.length) ' ')

/-- The widths of the columns: each is as wide as its widest cell. -/
def widths (headers : List String) (rows : List (List String)) : List Nat :=
  rows.foldl (fun widths row => widths.mapIdx fun i width =>
    max width ((row[i]?).map String.length |>.getD 0)) (headers.map String.length)

/-- A line of a table; cells beyond the last column are left out. -/
def line (widths : List Nat) (row : List String) : String :=
  "  ".intercalate (List.zipWith pad widths row)

/-- A table with aligned columns, one text a line: the headers, a rule below them and the rows. A
table without rows has no lines. -/
def columns (headers : List String) (rows : List (List String)) (indent : Int) : List String :=
  if rows.isEmpty then []
  else
    let widths := widths headers rows
    let rule := widths.map fun width => String.ofList (List.replicate width '─')
    let margin := String.ofList (List.replicate indent.toNat ' ')
    (line widths headers :: line widths rule :: rows.map (line widths)).map (margin ++ ·)

/-- The version of the form in which results are given to other programs. -/
def version : Int := 1

/-- The result of a command for other programs, with the moment at which it was made. -/
def envelope (command moment : String) (data : Value) : Value :=
  .obj [("schema_version", .int version), ("command", .str command),
    ("generated_at", .str moment), ("data", data)]

end DesignGraph.Report
