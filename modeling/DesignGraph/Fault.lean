/-!
# Faults

Everything that can keep an operation of this library from giving a result, told apart by
cause. A graph that is merely malformed is no fault: its evaluation degrades to null. Faults
come from numbers that leave the range of doubles, from snapshots that cannot be read, from
values of the wrong kind in places that do not coerce, and from event processors that refuse
an event.

## Main definitions

* `DesignGraph.Fault` — the causes.
* `DesignGraph.Fault.snapshotMessage` — the text shown for an unreadable snapshot.
-/

namespace DesignGraph

/-- Why an operation gave no result. -/
inductive Fault where
  /-- A number too large for a double, or an infinity asked for as an integer. -/
  | outOfRange
  /-- NaN asked for as an integer. -/
  | notInteger
  /-- A value of the right kind but with the wrong shape, such as a pair of three items. -/
  | malformed
  /-- A value of a kind that the operation does not take, such as a list used as a key. -/
  | wrongKind
  /-- A member that the addressed thing does not have. -/
  | noMember
  /-- Nothing is stored under the key. -/
  | noEntry
  /-- Elements that lie inside one another without end. -/
  | endless
  /-- A division by zero outside of the graphs' own arithmetic. -/
  | divisionByZero
  /-- An event processor refused an event or its shutdown, with this message. -/
  | refused (message : String)
  /-- The snapshot is structurally invalid at `path`, for the given reason. -/
  | snapshot (path reason : String)
  /-- A file that should be read, or the folder of a file that should be written, does not
  exist. -/
  | missingFile
  /-- A folder stands where a file should be read or written. -/
  | isFolder
  /-- A path leads through a file. -/
  | notFolder
  /-- A file stands where a folder should be made. -/
  | fileInPlace
  /-- A name in a path is longer than names of files can be. -/
  | nameTooLong
  /-- The settings file is not well formed. -/
  | badSettings
  /-- A text closes a style that it has not opened. -/
  | unopenedStyle
  /-- What a tag does when its text is clicked is not well formed. -/
  | badHandler
  deriving DecidableEq, Repr, Inhabited

/-- The text shown to an author whose snapshot is invalid at `path` for `reason`. -/
def Fault.snapshotMessage (path reason : String) : String :=
  "Invalid snapshot at '" ++ path ++ "'\n\n  -> " ++ reason ++ "\n\nHow to fix:\n" ++
    "  Re-export the project from the editor, or correct the value by hand"

end DesignGraph
