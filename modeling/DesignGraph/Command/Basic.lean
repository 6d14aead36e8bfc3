import DesignGraph.Project.File
import DesignGraph.Settings
/-!
# Commands

What can be asked for on a command line, and what comes of it. A command looks at files and gives
its output, its exit status and the files to be written; it changes nothing by itself.

## Main definitions

* `DesignGraph.Command` — what was asked for.
* `DesignGraph.Command.Host` — where a command runs.
* `DesignGraph.Command.Result` — what comes of a command.
* `DesignGraph.Command.places`, `DesignGraph.Command.settingsPlaces` — the places that a command
  looks at.
-/

namespace DesignGraph

/-- Where a command prints JSON: nowhere, on its output or into a file. -/
structure JsonRequest where
  wanted : Bool
  file : Option String
  deriving DecidableEq, Repr

/-- What was asked for on a command line. Every command names a project file. -/
inductive Command where
  /-- Compose an element in a context. -/
  | compose (project element : String) (hovered clicked : Bool) (time : Float)
    (json : JsonRequest)
  /-- Write the project as an HTML document. -/
  | page (project : String) (target : Option String) (title : String)
  /-- Describe a graph. -/
  | inspect (project graph : String) (json : JsonRequest)
  /-- Run the project for a number of frames and show what its page looks like then. -/
  | preview (project : String) (frames : Int) (fps : Option Float)
  deriving Repr

namespace Command

/-- Where a command runs. -/
structure Host where
  files : Files
  /-- The current folder. -/
  folder : Location
  /-- The current moment, as it is put into results. -/
  moment : String

/-- What comes of a command. -/
structure Result where
  /-- The exit status: zero when the command did what was asked for. -/
  status : Nat
  output : String
  /-- The files to be written, with their texts; their folders are made as needed. -/
  files : List (Location × String)

/-- A text of several lines, each with its line end. -/
def lines (ls : List String) : String :=
  String.join (ls.map (· ++ "\n"))

/-- The result of a command that prints lines. -/
def Result.printed (ls : List String) : Result :=
  ⟨0, lines ls, []⟩

/-- The result of a command that cannot do what was asked for. -/
def Result.failed (message : String) : Result :=
  ⟨1, lines ["Error: " ++ message], []⟩

/-- The path of a document where none is asked for. -/
def standardTarget : String := "index.html"

/-- The places on the way to a document with the given path. -/
def documentPlaces (folder : Location) (s : String) : List Location :=
  (((Path.ofText s).withExtension? documentExtension).map (·.places folder)).getD []

/-- The places on the way along the path with the given text. -/
def pathPlaces (folder : Location) (s : String) : List Location :=
  (Path.ofText s).places folder

/-- The places that a command looks at when it runs in a folder. -/
def places (folder : Location) : Command → List Location
  | .compose project _ _ _ _ json | .inspect project _ json =>
    (project :: json.file.toList).flatMap (pathPlaces folder)
  | .page project target _ =>
    pathPlaces folder project ++ Settings.places folder ++
      (standardTarget :: target.toList).flatMap (documentPlaces folder)
  | .preview project _ _ => pathPlaces folder project ++ Settings.places folder

/-- The places that a command looks at because settings name them. -/
def settingsPlaces (folder : Location) (settings : Settings) : Command → List Location
  | .page .. =>
    match settings.output with
    | .str path => documentPlaces folder path
    | _ => []
  | _ => []

end Command

end DesignGraph
