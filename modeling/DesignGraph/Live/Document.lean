import DesignGraph.Composition
import DesignGraph.Text.Blank
/-!
# Live documents

What is on the screen while a design runs: the shown text and style of every element, and the
pages that are visible. A document counts how often texts are written and layouts are forced, so
that needless work shows.

## Main definitions

* `DesignGraph.LiveElement`, `DesignGraph.Document` — what is on the screen.
* `DesignGraph.Document.ofProject` — the initial document of a design.
* `DesignGraph.LiveElement.setText`, `DesignGraph.LiveElement.applyStyles`,
  `DesignGraph.LiveElement.play` — bringing an element in line with a composition.
-/

namespace DesignGraph

/-- One element on the screen. -/
structure LiveElement where
  text : String
  style : Fields
  mounted : Bool
  /-- How often the text was written. -/
  textWrites : Nat
  /-- How often the layout was forced, which restarts a cleared animation. -/
  reflows : Nat
  deriving DecidableEq, Repr

/-- The elements on the screen by id, and the visible pages. -/
structure Document where
  elements : List (String × LiveElement)
  visible : List Value
  deriving DecidableEq, Repr

namespace LiveElement

/-- An element that shows a composition from the start. -/
def new (composition : Composition) : LiveElement :=
  ⟨composition.content, composition.style, true, 0, 0⟩

/-- Writes the text. -/
def writeText (text : String) (live : LiveElement) : LiveElement :=
  { live with text := text, textWrites := live.textWrites + 1 }

/-- Writes the text unless it is shown already. -/
def setText (text : String) (live : LiveElement) : LiveElement :=
  if live.text = text then live else live.writeText text

/-- Sets an entry of the style. -/
def setStyle (key : String) (value : Value) (live : LiveElement) : LiveElement :=
  { live with style := Fields.put key value live.style }

/-- The style keys that follow the computed style, in the order in which they are written. -/
def followedKeys : List String :=
  ["backgroundColor", "color", "fontSize", "transform", "opacity", "transition"]

/-- The shown form of a computed style value: a font size that is a number is given in pixels. -/
def shownValue (key : String) (value : Value) : Except Fault Value :=
  if key = "fontSize" ∧ Coercion.isNumber value then
    (Coercion.toNumber value).map fun x => .str (DigitLayout.browser.number x ++ "px")
  else .ok value

/-- Writes those of the given keys that are computed, up to the first fault. -/
def applyStyles (computed : Fields) : List String → LiveElement → Option Fault × LiveElement
  | [], live => (none, live)
  | key :: rest, live =>
    match Fields.get? computed key with
    | none => applyStyles computed rest live
    | some value =>
      match shownValue key value with
      | .ok value => applyStyles computed rest (live.setStyle key value)
      | .error fault => (some fault, live)

/-- Lets an animation play from its start: what played before is cleared, and the layout forced
in between. -/
def play (animation : Value) (live : LiveElement) : LiveElement :=
  { live.setStyle "animation" animation with reflows := live.reflows + 1 }

/-- Shows an animation, where a value that counts as false and `none` show none. -/
def animate (animation : Value) (live : LiveElement) : Except Fault LiveElement := do
  let shows ← Coercion.truthy animation
  if !shows || animation.equals (.str "none") then
    return live.setStyle "animation" (.str "none")
  else return live.play animation

/-- The animation in the style of an element, null for none. -/
def animation (live : LiveElement) : Value :=
  Fields.get live.style "animation"

/-- Whether an animation in a style is one that plays. -/
def plays (animation : Value) : Bool :=
  animation.isFilled && !animation.equals (.str "none")

/-- Whether a value is a text of nothing but white space. -/
def isBlankText : Value → Bool
  | .str s => s.toList.all isWhite
  | _ => false

end LiveElement

namespace Document

/-- Adds the elements with their compositions; of two elements with the same id the later one is
shown. -/
def render (project : Project) :
    List Element → List (String × LiveElement) → Except Fault (List (String × LiveElement))
  | [], shown => .ok shown
  | element :: rest, shown => do
    let composition ← Composition.standalone project .initial element
    render project rest (Fields.put element.id (.new composition) shown)

/-- The document before any input: every element as it is by itself, and the first page. -/
def ofProject (project : Project) : Except Fault Document := do
  let elements ← render project project.elements []
  let page := project.firstPage
  return ⟨elements, if page.isFilled then [page] else []⟩

/-- The element with the given id. -/
def element? (document : Document) (id : String) : Option LiveElement :=
  Fields.get? document.elements id

/-- Shows an element in a new form. -/
def put (id : String) (live : LiveElement) (document : Document) : Document :=
  { document with elements := Fields.put id live document.elements }

/-- Changes an element that is on the screen. -/
def modify (id : String) (change : LiveElement → LiveElement) (document : Document) :
    Except Fault Document :=
  match document.element? id with
  | some live => .ok (document.put id (change live))
  | none => .error .noEntry

/-- Takes an element off the screen. -/
def remove (id : String) (document : Document) : Except Fault Document :=
  match document.element? id with
  | some _ => .ok { document with elements := Fields.erase id document.elements }
  | none => .error .noEntry

/-- Makes a page visible. -/
def showPage (page : Value) (document : Document) : Except Fault Document := do
  let page ← page.asKey
  if document.visible.any page.sameKey then return document
  else return { document with visible := document.visible ++ [page] }

/-- Makes a page invisible. -/
def hidePage (page : Value) (document : Document) : Document :=
  { document with visible := document.visible.filter fun other => !page.sameKey other }

end Document

end DesignGraph
