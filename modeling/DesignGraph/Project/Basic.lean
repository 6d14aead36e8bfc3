import DesignGraph.Graph.Basic
import DesignGraph.Number.Basic
import DesignGraph.Value.Equality
/-!
# Projects

A design: elements placed on pages, and libraries of graphs that elements refer to by id. Ids
need not be unique and references need not lead anywhere; the first match counts and a missing
one is skipped.

## Main definitions

* `DesignGraph.Page`, `DesignGraph.Element`, `DesignGraph.Project` — the data of a design.
* `DesignGraph.ElementKind` — the built-in kinds of elements.
* `DesignGraph.Project.element?` — the element that an id addresses.
* `DesignGraph.Project.component`, `DesignGraph.Project.script` — the graphs of the libraries.
* `DesignGraph.Project.elementsOn`, `DesignGraph.Project.rootsOn`,
  `DesignGraph.Project.childrenOf` — elements by place.
-/

namespace DesignGraph

/-- A page. Its name may be a value of any kind. -/
structure Page where
  id : String
  name : Value
  deriving DecidableEq, Repr

/-- A built-in kind of element. -/
inductive ElementKind where
  | button | badge | heading | paragraph | card | input | image | video | avatar | divider
  | container | custom
  deriving DecidableEq, Repr

namespace ElementKind

/-- The built-in kinds. -/
def all : List ElementKind :=
  [.button, .badge, .heading, .paragraph, .card, .input, .image, .video, .avatar, .divider,
   .container, .custom]

/-- The name of a kind in snapshots. -/
def name : ElementKind → String
  | .button => "BUTTON"
  | .badge => "BADGE"
  | .heading => "HEADING"
  | .paragraph => "PARAGRAPH"
  | .card => "CARD"
  | .input => "INPUT"
  | .image => "IMAGE_PLACEHOLDER"
  | .video => "VIDEO_PLACEHOLDER"
  | .avatar => "AVATAR"
  | .divider => "DIVIDER"
  | .container => "CONTAINER"
  | .custom => "CUSTOM"

/-- The kind with the given name. -/
def ofName? (name : String) : Option ElementKind :=
  all.find? (·.name == name)

/-- Kinds whose displayed text follows the computed content. -/
def showsText : ElementKind → Bool
  | .button | .heading | .paragraph | .badge | .custom => true
  | _ => false

/-- The name of a kind names no other kind. -/
theorem ofName?_name (kind : ElementKind) : ofName? kind.name = some kind := by
  cases kind <;> decide

end ElementKind

/-- A placed element: geometry relative to its parent, static appearance and graphs. -/
structure Element where
  id : String
  /-- The name of the element's kind, which may be unknown. -/
  kind : String
  pageId : Option String
  parentId : Option String
  x : Number
  y : Number
  width : Number
  height : Number
  style : Fields
  content : Option String
  /-- The id of the shared component behind a custom element. -/
  componentId : Option String
  /-- A graph of the element's own. -/
  ownGraph : Option Graph
  /-- Whether the own graph replaces the shared component. -/
  isDetached : Bool
  /-- The ids of the attached scripts, in evaluation order. -/
  scripts : List String
  /-- The values that replace nodes in every graph of the element. -/
  overrides : Fields
  src : Option String
  alt : Option String
  videoOptions : Table Value
  deriving DecidableEq, Repr

namespace Element

/-- The built-in kind of an element. -/
def kind? (element : Element) : Option ElementKind :=
  ElementKind.ofName? element.kind

/-- Whether a graph defines the element. -/
def isCustom (element : Element) : Bool :=
  element.kind == ElementKind.custom.name

/-- Whether the element refers to a component or to scripts. -/
def hasGraphs (element : Element) : Bool :=
  element.isCustom || !element.scripts.isEmpty

/-- Whether the element lies on its page and not inside of another element. -/
def isRoot (element : Element) : Bool :=
  element.parentId.all (· == "")

end Element

/-- A text that may be absent, as a value. -/
def Value.ofText? : Option String → Value
  | some s => .str s
  | none => .null

/-- A design: elements and pages in authoring order, the size of the canvas and the libraries of
components and scripts. -/
structure Project where
  elements : List Element
  pages : List Page
  width : Number
  height : Number
  components : List Graph
  scripts : List Graph
  deriving DecidableEq, Repr

namespace Project

/-- The first graph of a library with the given id; graphs without id cannot be found. When the
id of some graph cannot be a key, nothing in the library can be looked up. -/
def graphIn (library : List Graph) (id : Value) : Except Fault (Option Graph) :=
  if library.any fun graph => !graph.id.isKey then .error .wrongKind
  else do
    let id ← id.asKey
    return library.find? fun graph => graph.id ≠ .null && graph.id.sameKey id

/-- The component with the given id; null is nobody's. -/
def component (project : Project) : Value → Except Fault (Option Graph)
  | .null => .ok none
  | id => graphIn project.components id

/-- The script with the given id. -/
def script (project : Project) (id : Value) : Except Fault (Option Graph) :=
  graphIn project.scripts id

/-- The first element with the given id. -/
def element? (project : Project) (id : String) : Option Element :=
  project.elements.find? (·.id == id)

/-- The elements with the given parent; null for those that have none. -/
def childrenOf (project : Project) (parent : Value) : List Element :=
  project.elements.filter fun element => Value.ofText? element.parentId = parent

/-- The elements of a page, nested ones included; null for those on no page. -/
def elementsOn (project : Project) (page : Value) : List Element :=
  project.elements.filter fun element => Value.ofText? element.pageId = page

/-- The elements of a page that lie in no other element. -/
def rootsOn (project : Project) (page : Value) : List Element :=
  (project.elementsOn page).filter Element.isRoot

/-- The id of the page that is shown first, null without pages. -/
def firstPage (project : Project) : Value :=
  Value.ofText? (project.pages.head?.map (·.id))

end Project

end DesignGraph
