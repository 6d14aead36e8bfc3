import DesignGraph.Command.Describe
import DesignGraph.Command.Preview
import DesignGraph.Project.File
/-!
# Running commands

Every command first reads its project file. A file that is missing or that holds no project is
reported to the user; other faults are left to the caller.

## Main definitions

* `DesignGraph.Command.writePage` — writes a project as an HTML document.
* `DesignGraph.Command.run` — what comes of a command.
-/

namespace DesignGraph.Command

/-- Where a document is written: the given path, the one of the settings, or a standard one. -/
def target (host : Host) (given : Option String) : Except Fault String :=
  match given.filter (· ≠ "") with
  | some path => .ok path
  | none => do
    let output := (← Settings.load host.files host.folder).output
    match output with
    | .str path => return if path = "" then standardTarget else path
    | output => if output.isFilled then .error .wrongKind else return standardTarget

/-- Writes a project as an HTML document. -/
def writePage (host : Host) (project : Project) (given : Option String) (title : String) :
    Except Fault Result := do
  let exported ← project.exportTo host.files host.folder (← target host given) title
  return ⟨0, lines ["Exported " ++ toString project.elements.length ++ " elements on " ++
    toString project.pages.length ++ " pages to " ++ exported.path.text],
    [(exported.location, exported.text)]⟩

/-- The path of the project that a command is about. -/
def project : Command → String
  | .compose project _ _ _ _ _ | .page project _ _ | .inspect project _ _
  | .preview project _ _ => project

/-- What comes of a command about a project that could be read. -/
def runOn (host : Host) (p : Project) : Command → Except Fault Result
  | .compose _ element hovered clicked time json =>
    describeElement host p element hovered clicked time json
  | .page _ given title => writePage host p given title
  | .inspect path graph json => describeGraph host p path graph json
  | .preview _ frames fps => showPreview host p frames fps

/-- What comes of a command. -/
def run (host : Host) (command : Command) : Except Fault Result :=
  match Project.ofFile host.files host.folder command.project with
  | .ok p => runOn host p command
  | .error .missingFile => .ok (.failed ("No such project file: '" ++ command.project ++ "'"))
  | .error (.snapshot path reason) => .ok (.failed (Fault.snapshotMessage path reason))
  | .error fault => .error fault

end DesignGraph.Command
