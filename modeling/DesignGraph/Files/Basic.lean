import DesignGraph.Fault
import DesignGraph.Files.Path
/-!
# Files

The files and folders that a command finds, as far as it looks at them. Commands that write give
the files to be written as part of their result.

## Main definitions

* `DesignGraph.Entry`, `DesignGraph.Files` — what stands at the places of a tree of folders.
* `DesignGraph.Files.walk` — the place that a walk leads to.
* `DesignGraph.Files.read` — the text of the file that a path leads to.
* `DesignGraph.Files.target` — the place where a file can be written.
* `DesignGraph.Files.makeFolders` — the files and folders with those on a path.
-/

namespace DesignGraph

/-- What stands at a place: a file with its text, or a folder. -/
inductive Entry where
  | file (text : String)
  | folder
  deriving DecidableEq, Repr

/-- What stands at every place. -/
abbrev Files := Location → Option Entry

namespace Files

/-- The text of the file at a place. -/
def text? (files : Files) (location : Location) : Option String :=
  match files location with
  | some (.file text) => some text
  | _ => none

/-- How many bytes a name can have. -/
def nameLimit : Nat := 255

/-- The place that a walk leads to; every place passed on the way has to be a folder. -/
def walk (files : Files) (location : Location) : List String → Except Fault Location
  | [] => .ok location
  | part :: rest =>
    match files location with
    | none => .error .missingFile
    | some (.file _) => .error .notFolder
    | some .folder =>
      if nameLimit < part.utf8ByteSize then .error .nameTooLong
      else walk files (location.step part) rest

/-- The place that the text of a path leads to. Names hold no null character, and the empty text
is no path. -/
def reach (files : Files) (folder : Location) (s : String) : Except Fault Location :=
  if s.contains '\x00' then .error .malformed
  else if s = "" then .error .missingFile
  else
    let path := Path.ofText s
    files.walk (path.origin folder) path.parts

/-- The text of the file that a path leads to. -/
def read (files : Files) (folder : Location) (s : String) : Except Fault String := do
  match files (← files.reach folder s) with
  | some (.file text) => if Path.asksForFolder s then .error .notFolder else return text
  | some .folder => .error .isFolder
  | none => .error .missingFile

/-- The place where a file with the given path can be written: its folder has to exist. -/
def target (files : Files) (folder : Location) (s : String) : Except Fault Location := do
  let location ← files.reach folder s
  match files location with
  | some .folder => .error .isFolder
  | some (.file _) => if Path.asksForFolder s then .error .notFolder else return location
  | none => if Path.asksForFolder s then .error .isFolder else return location

/-- The files with one more folder. -/
def withFolder (files : Files) (location : Location) : Files := fun other =>
  if other = location then some .folder else files other

/-- The files and folders with those on a walk from a place, which is given backwards: missing
folders are made. -/
def makeFolders (files : Files) (location : Location) : List String → Except Fault Files
  | [] => .ok files
  | last :: before => do
    let (files, place) ← match files.walk location (last :: before).reverse with
      | .ok place => pure (files, place)
      | .error .missingFile => do
        let files ← makeFolders files location before
        pure (files, ← files.walk location (last :: before).reverse)
      | .error fault => .error fault
    match files place with
    | some .folder => return files
    | some (.file _) => .error .fileInPlace
    | none => return files.withFolder place

end Files

end DesignGraph
