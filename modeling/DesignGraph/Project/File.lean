import DesignGraph.Files.Basic
import DesignGraph.Json.Reader
import DesignGraph.Project.Snapshot
import DesignGraph.Web.Document
/-!
# Project files

A project is kept as the JSON text of its snapshot and exported as an HTML document.

## Main definitions

* `DesignGraph.Project.ofFile` — the project in a file.
* `DesignGraph.Export` — an exported document and where it goes.
* `DesignGraph.Project.exportTo` — exports a project to a path.
-/

namespace DesignGraph

/-- What is wrong with a project file that is not JSON. -/
def notJson : String :=
  "not valid JSON: the text is no value"

/-- The extension of exported documents. -/
def documentExtension : String := ".html"

/-- An exported document, the path as it is shown and the place of the file. -/
structure Export where
  path : Path
  location : Location
  text : String

namespace Project

/-- The project with the given text, which was found at `path`. -/
def ofText (path text : String) : Except Fault Project :=
  match Json.read? text with
  | none => .error (.snapshot path notJson)
  | some v => ofSnapshot v

/-- The project in the file that a path leads to. -/
def ofFile (files : Files) (folder : Location) (path : String) : Except Fault Project := do
  ofText path (← files.read folder path)

/-- The document of a project as a file whose name ends in `.html`. Folders on the way are made as
they are needed, so the path need not lead anywhere yet. -/
def exportTo (project : Project) (files : Files) (folder : Location) (path title : String) :
    Except Fault Export :=
  match (Path.ofText path).withExtension? documentExtension with
  | none => .error .malformed
  | some path => do
    let way := path.parts.dropLast
    if way.any (·.contains '\x00') then .error .malformed
    let files ← files.makeFolders (path.origin folder) way.reverse
    let text ← Web.document project title
    return ⟨path, ← files.target folder path.text, text⟩

end Project

end DesignGraph
