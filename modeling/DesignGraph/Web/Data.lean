import DesignGraph.Json.Writer
import DesignGraph.Project.Snapshot
/-!
# Embedded data

The data that an exported design runs on, as a text that can stand inside of a script: nothing in
it ends the script or a line of it.

## Main definitions

* `DesignGraph.Embedded.shield` — a JSON text without the marks that end scripts and lines.
* `DesignGraph.Embedded.text` — a value as such a text.
* `DesignGraph.Embedded.data` — what an exported design needs to know of the design.
-/

namespace DesignGraph.Embedded

/-- Escapes what would end a script or a line of it. -/
def shield : List Char → List Char
  | [] => []
  | '<' :: '/' :: rest => '<' :: '\\' :: '/' :: shield rest
  | c :: rest =>
    if c = '\u2028' ∨ c = '\u2029' then Json.escapeUnit c.toNat ++ shield rest
    else c :: shield rest

/-- A value as a text that can stand inside of a script. -/
def text (v : Value) : String :=
  String.ofList (shield (Json.write .compact 0 v))

/-- What an exported design needs to know of an element. -/
def elementData (element : Element) : Value :=
  .obj [("id", .str element.id), ("type", .str element.kind),
    ("pageId", .ofText? element.pageId), ("content", .ofText? element.content),
    ("scripts", .list (element.scripts.map .str)), ("propOverrides", .obj element.overrides),
    ("customComponentId", .ofText? element.componentId),
    ("customNodeGroup", (element.ownGraph.map Graph.toSnapshot).getD .null),
    ("isDetached", .bool element.isDetached)]

/-- What an exported design needs to know. -/
def data (project : Project) : Value :=
  .obj [("elements", .list (project.elements.map elementData)),
    ("components", .list (project.components.map Graph.toSnapshot)),
    ("scripts", .list (project.scripts.map Graph.toSnapshot)),
    ("pages", .list (project.pages.map Page.toSnapshot))]

end DesignGraph.Embedded
