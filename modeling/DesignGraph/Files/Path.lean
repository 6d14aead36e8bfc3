/-!
# Paths

Paths as they are written and the places that they lead to. A written path keeps every step up;
a place in the tree of folders is the row of names from the root, and has one form only.

## Main definitions

* `DesignGraph.Path` — a path as it is written.
* `DesignGraph.Path.ofText`, `DesignGraph.Path.text` — paths and their texts.
* `DesignGraph.Path.withExtension?` — a path whose name has the given extension.
* `DesignGraph.Location` — a place in the tree of folders.
* `DesignGraph.Location.step` — the place one step further.
* `DesignGraph.Path.asksForFolder` — whether a path can only lead to a folder.
-/

namespace DesignGraph

/-- A path as it is written: the names between the slashes, where names that are empty or a single
dot do not count. -/
structure Path where
  /-- Whether the path starts at the root. -/
  absolute : Bool
  parts : List String
  deriving DecidableEq, Repr

namespace Path

/-- The path with the given text. -/
def ofText (s : String) : Path :=
  ⟨s.startsWith "/", (s.splitOn "/").filter fun part => part ≠ "" && part ≠ "."⟩

/-- The text of a path; a dot stands for the path without names. -/
def text (path : Path) : String :=
  let names := "/".intercalate path.parts
  if path.absolute then "/" ++ names
  else if path.parts.isEmpty then "."
  else names

/-- Whether a file name has an extension. A name that is nothing but the extension has none. -/
def hasExtension (extension name : String) : Bool :=
  name.endsWith extension && extension.length < name.length

/-- The path with the extension added to its last name, unless that has it; a path without names
cannot take one. -/
def withExtension? (extension : String) (path : Path) : Option Path :=
  path.parts.getLast?.map fun name =>
    if hasExtension extension name then path
    else { path with parts := path.parts.dropLast ++ [name ++ extension] }

end Path

/-- A place in the tree of folders: the names from the root down. -/
abbrev Location := List String

/-- The place that a name leads to; two dots lead up, and the root is its own parent. A single dot
leads nowhere. -/
def Location.step (location : Location) (part : String) : Location :=
  if part = ".." then location.dropLast
  else if part = "." then location
  else location ++ [part]

/-- The folders from a place up to the root. -/
def Location.ancestors (location : Location) : List Location :=
  (List.range (location.length + 1)).reverse.map (location.take ·)

namespace Path

/-- The place where a walk along the path starts. -/
def origin (folder : Location) (path : Path) : Location :=
  if path.absolute then [] else folder

/-- Whether a text writes a path that can only lead to a folder: it ends with a slash or with a
single dot. -/
def asksForFolder (s : String) : Bool :=
  s.endsWith "/" || s.endsWith "/." || s == "."

/-- The places on the way along a path, the start and the end included. -/
def places (folder : Location) (path : Path) : List Location :=
  path.parts.foldl (fun seen part => seen ++ [(seen.getLastD []).step part]) [path.origin folder]

/-- The place that a path leads to when all its folders exist. -/
def location (folder : Location) (path : Path) : Location :=
  path.parts.foldl Location.step (path.origin folder)

end Path

end DesignGraph
