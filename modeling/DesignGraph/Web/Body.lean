import DesignGraph.Composition
import DesignGraph.Web.Css
import DesignGraph.Web.Markup
import DesignGraph.Web.Video
/-!
# Page bodies

The markup of a design as it looks before any input: every page holds its elements, every element
is wrapped in a box with its place, and elements nest as they do in the design.

## Main definitions

* `DesignGraph.Body.content` — what an element shows.
* `DesignGraph.Body.element` — an element with all that lies in it.
* `DesignGraph.Body.pages` — the markup of all pages.
-/

namespace DesignGraph.Body

open Markup (attr)

/-! ## Pictures -/

/-- A drawing in lines. -/
def icon (size : String) (style : List (String × Option String)) (shapes : List Markup) : Markup :=
  .element "svg"
    ([attr "width" size, attr "height" size, attr "viewBox" "0 0 24 24",
      attr "fill" "none", attr "stroke" "currentColor", attr "stroke-width" "2",
      attr "stroke-linecap" "round", attr "stroke-linejoin" "round"] ++ style) shapes

/-- A circle of a drawing. -/
def circle (x y radius : String) : Markup :=
  .element "circle" [attr "cx" x, attr "cy" y, attr "r" radius] []

/-- Stands for a missing image. -/
def imageIcon : Markup :=
  icon "24" []
    [.element "rect" [attr "x" "3", attr "y" "3", attr "width" "18",
      attr "height" "18", attr "rx" "2", attr "ry" "2"] [],
     circle "8.5" "8.5" "1.5",
     .element "polyline" [attr "points" "21 15 16 10 5 21"] []]

/-- Stands for a missing video. -/
def videoIcon : Markup :=
  icon "24" []
    [circle "12" "12" "10", .element "polygon" [attr "points" "10 8 16 12 10 16 10 8"] []]

/-- Stands for a missing portrait. -/
def portraitIcon : Markup :=
  icon "50%" [attr "style" "opacity:0.5"]
    [.element "path" [attr "d" "M20 21v-2a4 4 0 0 0-4-4H8a4 4 0 0 0-4 4v2"] [],
     circle "12" "7" "4"]

/-- An icon in the middle of an empty element. -/
def placeholder (icon : Markup) : Markup :=
  .element "div"
    [attr "style" ("display:flex; flex-direction:column; align-items:center; " ++
      "justify-content:center; color:#9ca3af; height:100%;")] [icon]

/-! ## Contents -/

/-- The tag of an element's content, its attributes beside those that every content has, and what
stands in it before the elements that lie in it. -/
structure Content where
  tag : String
  attributes : List (String × Option String)
  inner : List Markup

/-- A content without attributes of its own. -/
def block (inner : List Markup) : Content :=
  ⟨"div", [], inner⟩

/-- A text, cut off at the end of the line when its size is fitted. -/
def shownText (style : Fields) (text : String) : Markup :=
  if (Fields.get style "autoFontSize").isFilled then
    .element "span" [attr "class" "truncate max-w-full block"] [.text text]
  else .text text

/-- The options of a video element; controls are shown unless they are switched off. -/
def playback (element : Element) : Video.Playback :=
  let option (key : String) : Option Value := element.videoOptions.get? (.str key)
  ⟨(option "autoplay").any Value.isFilled, option "controls" ≠ some (.bool false),
    (option "loop").any Value.isFilled, (option "muted").any Value.isFilled⟩

/-- The frame of a video platform's player. -/
def playerFrame (id : String) (playback : Video.Playback) : Markup :=
  .element "iframe"
    [attr "width" "100%", attr "height" "100%",
     attr "src" (Video.playerAddress id playback), attr "frameborder" "0",
     attr "allow" ("accelerometer; autoplay; clipboard-write; encrypted-media; " ++
      "gyroscope; picture-in-picture"),
     attr "style" "border-radius: inherit; pointer-events: auto;"] []

/-- A video with an address: the player of its platform, or the video itself. -/
def video (src : String) (playback : Video.Playback) : Content :=
  match Video.id? src with
  | some id => block [playerFrame id playback]
  | none =>
    let flags := [("autoplay", playback.autoplay), ("loop", playback.loop),
      ("muted", playback.muted), ("controls", playback.controls), ("playsinline", true)]
    ⟨"video", attr "src" src ::
      (flags.filter (·.2)).map fun flag => (flag.1, none), []⟩

/-- An image with an address. -/
def image (src : String) (element : Element) : Content :=
  ⟨"img", [attr "src" src, attr "alt" (element.alt.getD "")], []⟩

/-- A line in the color of the background. -/
def line (style : Fields) : Markup :=
  let color := (Css.filled? style "backgroundColor").getD (.str "#d1d5db")
  .element "div"
    [attr "style" ("width:100%; height:1px; background-color:" ++ color.display ++ ";")] []

/-- The address of an element's image or video, if there is one. -/
def src? (element : Element) : Option String :=
  element.src.filter (· != "")

/-- What an element shows. -/
def content (element : Element) (style : Fields) (text : String) : Content :=
  match element.kind?, src? element with
  | some .button, _ => ⟨"button", [], [shownText style text]⟩
  | some .image, some src | some .avatar, some src => image src element
  | some .avatar, none => block [portraitIcon]
  | some .image, none => block [placeholder imageIcon]
  | some .video, none => block [placeholder videoIcon]
  | some .video, some src => video src (playback element)
  | some .divider, _ => block [line style]
  | _, _ => block [shownText style text]

/-! ## Elements -/

/-- The box around an element. -/
def wrap (element : Element) (place : String) (inner : List Markup) : Markup :=
  .element "div" [attr "id" (element.id ++ "-wrapper"), attr "style" place] inner

/-- The markup of an element that looks as composed, with the markup of what lies in it. Nothing
can lie in an input field, so that it stands beside it. -/
def assemble (element : Element) (composition : Composition) (place css : String)
    (children : List Markup) : Markup :=
  let classes := Css.classes element.kind composition.style
  let id := attr "data-el-id" element.id
  if element.kind? = some .input then
    wrap element place (.void "input"
      [id, attr "type" "text", attr "value" composition.content,
       attr "class" classes, attr "style" css, ("readonly", none)] :: children)
  else
    let content := content element composition.style composition.content
    wrap element place [.element content.tag
      ([id, attr "class" classes, attr "style" css] ++ content.attributes)
      (content.inner ++ children)]

/-- An element in a parent of the given size, with all that lies in it; `depth` bounds the number
of elements inside one another. -/
def element (project : Project) : Nat → (parentWidth parentHeight : Number) → Element →
    Except Fault Markup
  | 0, _, _, _ => .error .endless
  | depth + 1, parentWidth, parentHeight, el => do
    let children ←
      (project.childrenOf (.str el.id)).mapM (element project depth el.width el.height)
    let place ← Css.wrapper el.x el.y el.width el.height parentWidth parentHeight
    let composition ← Composition.standalone project .initial el
    let css ← Css.element composition.style el.width el.height composition.content project.width
    return assemble el composition place css children

/-! ## Pages -/

/-- The markup of a page; only the first one is shown at the start. -/
def page (project : Project) (isFirst : Bool) (page : Page) : Except Fault Markup := do
  let roots ← (project.rootsOn (.str page.id)).mapM
    (element project (project.elements.length + 1) project.width project.height)
  let hidden := if isFirst then "" else " hidden"
  return .element "div"
    [attr "id" ("page-" ++ page.id),
     attr "class" ("page-container absolute inset-0 w-full h-full" ++ hidden)]
    (.text "\n" :: Markup.lines roots ++ [.text "\n"])

/-- The markup of pages. -/
def pagesFrom (project : Project) : Bool → List Page → Except Fault (List Markup)
  | _, [] => .ok []
  | isFirst, p :: rest => do
    let markup ← page project isFirst p
    return markup :: (← pagesFrom project false rest)

/-- The markup of all pages, each on lines of its own. -/
def pages (project : Project) : Except Fault (List Markup) := do
  return Markup.lines (← pagesFrom project true project.pages)

end DesignGraph.Body
