import DesignGraph.Coercion
import DesignGraph.Number.Basic
import DesignGraph.Project.Basic
import DesignGraph.Text.Literal
/-!
# Style sheets

Styles as CSS text. Geometry is given in percent of the parent with four places, lengths in
pixels are given relative to the width of the canvas, so that a whole design scales with the
window.

## Main definitions

* `DesignGraph.Css.percent`, `DesignGraph.Css.relative` — lengths relative to a basis.
* `DesignGraph.Css.wrapper` — the place of an element inside its parent.
* `DesignGraph.Css.fittingSize` — the font size that fits a text on one line of a box.
* `DesignGraph.Css.declarations`, `DesignGraph.Css.element` — the style of an element.
* `DesignGraph.Css.classes` — the utility classes of an element's content.
-/

namespace DesignGraph.Css

/-! ## Lengths -/

/-- A length in percent of a basis; nothing is any part of a basis of zero. -/
def percent (value basis : Number) : Except Fault String := do
  if basis.isZero then return "0.0000%"
  return Decimal.fixed 4 ((← value.dividedBy basis) * 100) ++ "%"

/-- Pixels relative to the width of the canvas; what is no number stays as it is. -/
def relative (pixels : Value) (canvas : Number) : Except Fault String := do
  let x ← Coercion.toNumber pixels
  if x.isNaN then return pixels.display
  return DigitLayout.browser.number ((← Number.dividedBy (.float x) canvas) * 100) ++ "vw"

/-- The place and size of an element inside its parent. -/
def wrapper (x y width height parentWidth parentHeight : Number) : Except Fault String := do
  let left ← percent x parentWidth
  let top ← percent y parentHeight
  let width ← percent width parentWidth
  let height ← percent height parentHeight
  return "position: absolute; left: " ++ left ++ "; top: " ++ top ++ "; width: " ++ width ++
    "; height: " ++ height ++ ";"

/-- The integer nearest to a double, a half going up. -/
def nearestInt (x : Float) : Except Fault Int :=
  match Double.toInt? (Double.roundHalfUp x) with
  | some i => .ok i
  | none => .error .notInteger

/-- The font size that fits a text on one line of a box, at least ten. -/
def fittingSize (width height : Number) (content : String) : Except Fault Int := do
  let byHeight ← nearestInt (← height.times 0.6)
  let share ← width.dividedBy (.int (max 1 content.length))
  let byWidth ← nearestInt (share * 1.8)
  return max 10 (min byHeight byWidth)

/-! ## Pixels inside of a text -/

/-- A number in digits of any script with an optional minus sign and an optional fraction, at the
start of a text and followed by the unit of pixels: the number and what follows the unit. -/
def pixelsAt? (cs : List Char) : Option (Decimal × List Char) :=
  let (negative, cs) := match cs with
    | '-' :: rest => (true, rest)
    | cs => (false, cs)
  match Coercion.splitDigits cs with
  | ([], _) => none
  | (whole, 'p' :: 'x' :: rest) => some (⟨negative, Coercion.ofDigits whole, 0⟩, rest)
  | (whole, '.' :: rest) =>
    match Coercion.splitDigits rest with
    | ([], _) => none
    | (fraction, 'p' :: 'x' :: rest) =>
      some (⟨negative, Coercion.ofDigits (whole ++ fraction), -fraction.length⟩, rest)
    | _ => none
  | _ => none

/-- Replaces every number of pixels in a text; every step takes a character at least, so that the
length of the text bounds their number. -/
def scalePixels (canvas : Number) : Nat → List Char → Except Fault (List Char)
  | 0, cs => .ok cs
  | _, [] => .ok []
  | steps + 1, c :: cs =>
    match pixelsAt? (c :: cs) with
    | some (number, rest) => do
      let scaled ← relative (.float number.toDouble) canvas
      return scaled.toList ++ (← scalePixels canvas steps rest)
    | none => do return c :: (← scalePixels canvas steps cs)

/-! ## Declarations -/

/-- A property and its value. -/
structure Declaration where
  property : String
  value : String
  deriving DecidableEq, Repr

/-- The text of a declaration. -/
def Declaration.text (d : Declaration) : String :=
  d.property ++ ": " ++ d.value ++ "; "

/-- Properties that take their value unchanged and stand before the font. -/
def paintProperties : List (String × String) :=
  [("backgroundColor", "background-color"), ("backgroundImage", "background-image"),
   ("color", "color"), ("fontWeight", "font-weight")]

/-- Properties that take their value unchanged and stand after the opacity. -/
def layoutProperties : List (String × String) :=
  [("display", "display"), ("alignItems", "align-items"), ("justifyContent", "justify-content"),
   ("transform", "transform"), ("textAlign", "text-align"), ("transition", "transition"),
   ("animation", "animation"), ("flexDirection", "flex-direction"),
   ("lineHeight", "line-height"), ("letterSpacing", "letter-spacing")]

/-- Properties that take a length in pixels. -/
def spacingProperties : List (String × String) :=
  [("marginTop", "margin-top"), ("marginLeft", "margin-left"), ("gap", "gap")]

/-- Properties that take their value unchanged and stand after the spacing. -/
def decorProperties : List (String × String) :=
  [("textShadow", "text-shadow"), ("objectFit", "object-fit")]

/-- Further properties that take a length in pixels. -/
def boxProperties : List (String × String) :=
  [("borderRadius", "border-radius"), ("padding", "padding")]

/-- The widths of borders. -/
def borderProperties : List (String × String) :=
  [("borderWidth", "border-width"), ("borderBottomWidth", "border-bottom-width"),
   ("borderTopWidth", "border-top-width")]

/-- The value of a style under a key, if it is filled. -/
def filled? (style : Fields) (key : String) : Option Value :=
  let v := Fields.get style key
  if v.isFilled then some v else none

/-- Those of the given properties that the style fills, with their values unchanged. -/
def plain (style : Fields) (properties : List (String × String)) : List Declaration :=
  properties.filterMap fun (key, property) =>
    (filled? style key).map fun v => ⟨property, v.display⟩

/-- Those of the given properties that the style fills, with their values as relative lengths. -/
def scaled (style : Fields) (canvas : Number) :
    List (String × String) → Except Fault (List Declaration)
  | [] => .ok []
  | (key, property) :: rest =>
    match filled? style key with
    | none => scaled style canvas rest
    | some v => do
      let value ← relative v canvas
      return ⟨property, value⟩ :: (← scaled style canvas rest)

/-- The font family, with a fallback. -/
def family (style : Fields) : List Declaration :=
  (filled? style "fontFamily").toList.map fun v =>
    ⟨"font-family", "'" ++ v.display ++ "', sans-serif"⟩

/-- The opacity, which may be zero. -/
def opacity (style : Fields) : Except Fault (List Declaration) :=
  match Fields.get style "opacity" with
  | .null => .ok []
  | v =>
    match Number.ofValue? v with
    | some n => n.toDouble.map fun x => [⟨"opacity", DigitLayout.browser.number x⟩]
    | none => .ok [⟨"opacity", v.display⟩]

/-- Borders: solid ones where some side has a width. -/
def borders (style : Fields) (canvas : Number) : Except Fault (List Declaration) := do
  if borderProperties.all fun (key, _) => (filled? style key).isNone then return []
  let widths ← scaled style canvas borderProperties
  return widths ++ [⟨"border-style", "solid"⟩] ++ plain style [("borderColor", "border-color")]

/-- The shadow of the box, with its pixels scaled. -/
def shadow (style : Fields) (canvas : Number) : Except Fault (List Declaration) :=
  match filled? style "boxShadow" with
  | none => .ok []
  | some v => do
    let text := v.display.toList
    return [⟨"box-shadow", String.ofList (← scalePixels canvas text.length text)⟩]

/-- The font size: the one that fits the content if the style asks for it, else the given one. -/
def fontSize (style : Fields) (width height : Number) (content : String) (canvas : Number) :
    Except Fault (List Declaration) := do
  if (Fields.get style "autoFontSize").isFilled then
    let size ← fittingSize width height content
    let size ← relative (.int size) canvas
    return [⟨"line-height", "1"⟩, ⟨"white-space", "nowrap"⟩, ⟨"text-overflow", "ellipsis"⟩,
      ⟨"font-size", size⟩]
  else scaled style canvas [("fontSize", "font-size")]

/-- The declarations for an element's content. -/
def declarations (style : Fields) (width height : Number) (content : String) (canvas : Number) :
    Except Fault (List Declaration) := do
  let opacity ← opacity style
  let spacing ← scaled style canvas spacingProperties
  let box ← scaled style canvas boxProperties
  let borders ← borders style canvas
  let shadow ← shadow style canvas
  let fontSize ← fontSize style width height content canvas
  return plain style paintProperties ++ family style ++ opacity ++ plain style layoutProperties ++
    spacing ++ plain style decorProperties ++ box ++ borders ++ shadow ++ fontSize

/-- The style of an element's content as text. -/
def element (style : Fields) (width height : Number) (content : String) (canvas : Number) :
    Except Fault String := do
  return String.join ((← declarations style width height content canvas).map Declaration.text)

/-! ## Classes -/

/-- The utility classes of the content of an element of the given kind. -/
def classes (kind : String) (style : Fields) : String :=
  match ElementKind.ofName? kind with
  | some .button | some .badge =>
    let justify :=
      match Fields.get style "textAlign" with
      | .str "left" => "justify-start px-4"
      | .str "right" => "justify-end px-4"
      | _ => "justify-center"
    "w-full h-full flex items-center " ++ justify ++
      " transition-opacity hover:opacity-90 overflow-hidden"
  | some .heading => "w-full h-full overflow-hidden leading-tight flex flex-col justify-center"
  | some .paragraph => "w-full h-full overflow-hidden leading-relaxed"
  | some .card => "w-full h-full bg-white"
  | some .input =>
    "w-full h-full px-3 text-sm rounded focus:outline-none focus:ring-2 " ++
      "focus:ring-blue-500 bg-transparent"
  | some .image | some .video | some .avatar => "w-full h-full overflow-hidden"
  | some .divider => "w-full h-full flex items-center"
  | _ => "w-full h-full"

end DesignGraph.Css
