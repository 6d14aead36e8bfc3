import DesignGraph.Project.Basic
import DesignGraph.Graph.Snapshot
import DesignGraph.Text.Literal
/-!
# Snapshots of projects

The saved form of a design. Reading is where a malformed design is refused; what has been read is
written in one canonical form, which reads back as the same design.

## Main definitions

* `DesignGraph.Page.ofSnapshot`, `DesignGraph.Page.toSnapshot` — pages.
* `DesignGraph.Element.ofSnapshot`, `DesignGraph.Element.toSnapshot` — elements.
* `DesignGraph.Project.ofSnapshot`, `DesignGraph.Project.toSnapshot` — whole designs.
-/

namespace DesignGraph

namespace Snapshot

/-- The refusal of a value of the wrong kind under a key. -/
def unexpected (path key expected : String) (v : Value) : Fault :=
  .snapshot (path ++ "." ++ key) ("expected " ++ expected ++ ", got " ++ v.kindName)

/-- The text under a key. -/
def requiredText (fields : Fields) (path key : String) : Except Fault String :=
  match Fields.get fields key with
  | .str s => .ok s
  | v => .error (unexpected path key "str" v)

/-- The text under a key, if there is anything but null. -/
def optionalText (fields : Fields) (path key : String) : Except Fault (Option String) :=
  match Fields.get fields key with
  | .null => .ok none
  | .str s => .ok (some s)
  | v => .error (unexpected path key "str" v)

/-- The graph under a key, if there is anything but null. -/
def optionalGraph (fields : Fields) (path key : String) : Except Fault (Option Graph) :=
  match Fields.get fields key with
  | .null => .ok none
  | v => (Graph.ofSnapshot (path ++ "." ++ key) v).map some

/-- The number under a key, or the default for null and zero. Truth values are no numbers. -/
def numberOr (default : Int) (fields : Fields) (path key : String) : Except Fault Number :=
  let orDefault (n : Number) : Number := if n.isZero then .int default else n
  match Fields.get fields key with
  | .null => .ok (.int default)
  | .int i => .ok (orDefault (.int i))
  | .float x => .ok (orDefault (.float x))
  | .nan _ => .ok (.float Double.nan)
  | v => .error (unexpected path key "int or float" v)

/-- Whether nothing stands under a key, or a list. -/
def checkList (fields : Fields) (key : String) : Except Fault Unit :=
  match Fields.get? fields key with
  | none | some (.list _) => .ok ()
  | some _ => .error (.snapshot key ("'" ++ key ++ "' must be a list"))

/-- Reads the list under a key, item by item. -/
def list {α : Type} (read : String → Value → Except Fault α) (fields : Fields) (key : String) :
    Except Fault (List α) :=
  match Fields.get? fields key with
  | some (.list vs) => items read key 0 vs
  | _ => .ok []

/-- The texts of a list of ids; any value that is not filled stands for no ids. -/
def ids (fields : Fields) (path key : String) : Except Fault (List String) :=
  let refusal : Fault := .snapshot (path ++ "." ++ key) "scripts must be a list of ids"
  match Fields.get fields key with
  | .list vs => vs.mapM fun v => match v with
    | .str s => .ok s
    | _ => .error refusal
  | v => if v.isFilled then .error refusal else .ok []

/-! ## Options -/

/-- A key with its value, given as a list of two, a text of two characters or an object with two
keys. -/
def pair : Value → Except Fault (Value × Value)
  | .list [a, b] => .ok (a, b)
  | .list _ => .error .malformed
  | .str s =>
    match s.toList with
    | [a, b] => .ok (.str a.toString, .str b.toString)
    | _ => .error .malformed
  | .obj [(a, _), (b, _)] => .ok (.str a, .str b)
  | .obj _ => .error .malformed
  | _ => .error .wrongKind

/-- Options from a list of pairs; a later pair counts, at the place of the first. -/
def optionsOfPairs (vs : List Value) : Except Fault (Table Value) :=
  vs.foldlM (fun table v => do
    let (key, value) ← pair v
    return table.put (← key.asKey) value) []

/-- Options from an object or a list of pairs; any value that is not filled stands for none. -/
def options : Value → Except Fault (Table Value)
  | .obj fields => .ok (fields.map fun (k, v) => (.str k, v))
  | .list vs => optionsOfPairs vs
  | .str s => if s = "" then .ok [] else .error .malformed
  | v => if v.isFilled then .error .wrongKind else .ok []

/-- Options whose keys are all texts, as fields. -/
def optionFields? : Table Value → Option Fields
  | [] => some []
  | (.str k, v) :: rest => (optionFields? rest).map ((k, v) :: ·)
  | _ => none

/-- Options as an object, or as a list of pairs when some key is no text. -/
def ofOptions (table : Table Value) : Value :=
  match optionFields? table with
  | some fields => .obj fields
  | none => .list (table.map fun (k, v) => .list [k, v])

end Snapshot

namespace Page

/-- Reads a page; a name that is not filled counts as empty. -/
def ofSnapshot (path : String) (raw : Value) : Except Fault Page := do
  let fields ← Snapshot.object path raw
  let id ← Snapshot.requiredText fields path "id"
  let name := Fields.get fields "name"
  return ⟨id, if name.isFilled then name else .str ""⟩

/-- Writes a page. -/
def toSnapshot (page : Page) : Value :=
  .obj [("id", .str page.id), ("name", page.name)]

end Page

namespace Element

/-- Reads an element. The first problem counts, lists and objects before single values. -/
def ofSnapshot (path : String) (raw : Value) : Except Fault Element := do
  let fields ← Snapshot.object path raw
  let scripts ← Snapshot.ids fields path "scripts"
  let style ← Snapshot.objectOrEmpty fields path "style" "style must be an object"
  let overrides ←
    Snapshot.objectOrEmpty fields path "propOverrides" "propOverrides must be an object"
  let id ← Snapshot.requiredText fields path "id"
  let kind ← Snapshot.requiredText fields path "type"
  let pageId ← Snapshot.optionalText fields path "pageId"
  let parentId ← Snapshot.optionalText fields path "parentId"
  let x ← Snapshot.numberOr 0 fields path "x"
  let y ← Snapshot.numberOr 0 fields path "y"
  let width ← Snapshot.numberOr 0 fields path "width"
  let height ← Snapshot.numberOr 0 fields path "height"
  let content := match Fields.get fields "content" with
    | .null => none
    | v => some v.display
  let componentId ← Snapshot.optionalText fields path "customComponentId"
  let ownGraph ← Snapshot.optionalGraph fields path "customNodeGroup"
  let src ← Snapshot.optionalText fields path "src"
  let alt ← Snapshot.optionalText fields path "alt"
  let videoOptions ← Snapshot.options (Fields.get fields "videoOptions")
  return {
    id, kind, pageId, parentId, x, y, width, height, style, content, componentId, ownGraph,
    isDetached := (Fields.get fields "isDetached").isFilled,
    scripts, overrides, src, alt, videoOptions }

/-- A field that is written only when there is a value for it. -/
def present (key : String) : Option Value → Fields
  | some v => [(key, v)]
  | none => []

/-- Writes an element. -/
def toSnapshot (element : Element) : Value :=
  .obj ([("id", .str element.id), ("type", .str element.kind),
      ("pageId", .ofText? element.pageId), ("parentId", .ofText? element.parentId),
      ("x", element.x.toValue), ("y", element.y.toValue),
      ("width", element.width.toValue), ("height", element.height.toValue),
      ("style", .obj element.style), ("content", .ofText? element.content),
      ("scripts", .list (element.scripts.map .str)), ("propOverrides", .obj element.overrides),
      ("isDetached", .bool element.isDetached)] ++
    present "customComponentId" (element.componentId.map .str) ++
    present "customNodeGroup" (element.ownGraph.map Graph.toSnapshot) ++
    present "src" (element.src.map .str) ++ present "alt" (element.alt.map .str) ++
    if element.videoOptions.isEmpty then []
    else [("videoOptions", Snapshot.ofOptions element.videoOptions)])

end Element

namespace Project

/-- Reads a design. -/
def ofSnapshot (raw : Value) : Except Fault Project := do
  let fields ← Snapshot.object "project" raw
  Snapshot.checkList fields "elements"
  Snapshot.checkList fields "pages"
  Snapshot.checkList fields "components"
  Snapshot.checkList fields "scripts"
  let width ← Snapshot.numberOr 1440 fields "project" "width"
  let height ← Snapshot.numberOr 900 fields "project" "height"
  if width.isAtMostZero || height.isAtMostZero then
    .error (.snapshot "project.width" "canvas width and height must be positive")
  else
    let elements ← Snapshot.list Element.ofSnapshot fields "elements"
    let pages ← Snapshot.list Page.ofSnapshot fields "pages"
    let components ← Snapshot.list Graph.ofSnapshot fields "components"
    let scripts ← Snapshot.list Graph.ofSnapshot fields "scripts"
    return ⟨elements, pages, width, height, components, scripts⟩

/-- Writes a design. -/
def toSnapshot (project : Project) : Value :=
  .obj [("elements", .list (project.elements.map Element.toSnapshot)),
    ("pages", .list (project.pages.map Page.toSnapshot)),
    ("width", project.width.toValue), ("height", project.height.toValue),
    ("components", .list (project.components.map Graph.toSnapshot)),
    ("scripts", .list (project.scripts.map Graph.toSnapshot))]

end Project

end DesignGraph
