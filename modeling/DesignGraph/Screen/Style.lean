import DesignGraph.Fault
import DesignGraph.Text.Blank
import DesignGraph.Text.DecimalDigit
import DesignGraph.Text.Hex
import DesignGraph.Text.LowerCase
/-!
# Styles

A style is written as a row of words: attributes such as `bold`, which `not` turns off, a color,
a background behind `on` and an address behind `link`. Attributes have short names, and their
order does not matter, so that a style has many texts; one of them is its normal form.

## Main definitions

* `DesignGraph.Screen.Style` — a style.
* `DesignGraph.Screen.Style.ofText` — the style that a text writes.
* `DesignGraph.Screen.Style.text` — the normal form of a style.
* `DesignGraph.Screen.Style.normalName` — the normal form of the name of a style.
-/

namespace DesignGraph.Screen

/-! ## Words and numbers -/

/-- The words of a text, which stand between white space. -/
def wordsOf (cs : List Char) : List (List Char) :=
  go [] cs
where
  go (word : List Char) : List Char → List (List Char)
    | [] => finished word
    | c :: rest => if isWhite c then finished word ++ go [] rest else go (word ++ [c]) rest
  finished (word : List Char) : List (List Char) :=
    if word.isEmpty then [] else [word]

/-- A text without the white space at its ends. -/
def trimWhite (cs : List Char) : List Char :=
  ((cs.dropWhile isWhite).reverse.dropWhile isWhite).reverse

/-- The number that a row of decimal digits of any script stands for. -/
def decimalNumber? (ds : List Char) : Option Nat :=
  ds.foldlM (fun n d => (digitValue? d).map (n * 10 + ·)) 0

/-! ## Colors -/

/-- The named colors. -/
def colorRows : List String :=
  ["black red green yellow blue magenta cyan white bright_black bright_red bright_green",
   "bright_yellow bright_blue bright_magenta bright_cyan bright_white grey0 gray0 navy_blue",
   "dark_blue blue3 blue1 dark_green deep_sky_blue4 dodger_blue3 dodger_blue2 green4",
   "spring_green4 turquoise4 deep_sky_blue3 dodger_blue1 green3 spring_green3 dark_cyan",
   "light_sea_green deep_sky_blue2 deep_sky_blue1 spring_green2 cyan3 dark_turquoise",
   "turquoise2 green1 spring_green1 medium_spring_green cyan2 cyan1 dark_red deep_pink4",
   "purple4 purple3 blue_violet orange4 grey37 gray37 medium_purple4 slate_blue3 royal_blue1",
   "chartreuse4 dark_sea_green4 pale_turquoise4 steel_blue steel_blue3 cornflower_blue",
   "chartreuse3 cadet_blue sky_blue3 steel_blue1 pale_green3 sea_green3 aquamarine3",
   "medium_turquoise chartreuse2 sea_green2 sea_green1 aquamarine1 dark_slate_gray2",
   "dark_magenta dark_violet purple light_pink4 plum4 medium_purple3 slate_blue1 yellow4",
   "wheat4 grey53 gray53 light_slate_grey light_slate_gray medium_purple light_slate_blue",
   "dark_olive_green3 dark_sea_green light_sky_blue3 sky_blue2 dark_sea_green3",
   "dark_slate_gray3 sky_blue1 chartreuse1 light_green pale_green1 dark_slate_gray1 red3",
   "medium_violet_red magenta3 dark_orange3 indian_red hot_pink3 medium_orchid3 medium_orchid",
   "medium_purple2 dark_goldenrod light_salmon3 rosy_brown grey63 gray63 medium_purple1 gold3",
   "dark_khaki navajo_white3 grey69 gray69 light_steel_blue3 light_steel_blue yellow3",
   "dark_sea_green2 light_cyan3 light_sky_blue1 green_yellow dark_olive_green2 dark_sea_green1",
   "pale_turquoise1 deep_pink3 magenta2 hot_pink2 orchid medium_orchid1 orange3 light_pink3",
   "pink3 plum3 violet light_goldenrod3 tan misty_rose3 thistle3 plum2 khaki3 light_goldenrod2",
   "light_yellow3 grey84 gray84 light_steel_blue1 yellow2 dark_olive_green1 honeydew2",
   "light_cyan1 red1 deep_pink2 deep_pink1 magenta1 orange_red1 indian_red1 hot_pink",
   "dark_orange salmon1 light_coral pale_violet_red1 orchid2 orchid1 orange1 sandy_brown",
   "light_salmon1 light_pink1 pink1 plum1 gold1 navajo_white1 misty_rose1 thistle1 yellow1",
   "light_goldenrod1 khaki1 wheat1 cornsilk1 grey100 gray100 grey3 gray3 grey7 gray7 grey11",
   "gray11 grey15 gray15 grey19 gray19 grey23 gray23 grey27 gray27 grey30 gray30 grey35 gray35",
   "grey39 gray39 grey42 gray42 grey46 gray46 grey50 gray50 grey54 gray54 grey58 gray58 grey62",
   "gray62 grey66 gray66 grey70 gray70 grey74 gray74 grey78 gray78 grey82 gray82 grey85 gray85",
   "grey89 gray89 grey93 gray93"]

/-- The names of colors. -/
def colorNames : List (List Char) :=
  (colorRows.flatMap fun row => wordsOf row.toList) ++ ["default".toList]

/-- What stands between a name with an opening bracket and a closing bracket at the end. -/
def bracketed? (name : String) (word : List Char) : Option (List Char) :=
  let start := name.toList ++ ['(']
  if start.isPrefixOf word then
    let rest := word.drop start.length
    if rest.getLast? = some ')' then some rest.dropLast else none
  else none

/-- The three parts of a text between two commas. -/
def threeParts? (cs : List Char) : Option (List Char × List Char × List Char) :=
  let red := cs.takeWhile (· != ',')
  match cs.dropWhile (· != ',') with
  | ',' :: rest =>
    let green := rest.takeWhile (· != ',')
    match rest.dropWhile (· != ',') with
    | ',' :: blue => if blue.contains ',' then none else some (red, green, blue)
    | _ => none
  | _ => none

/-- Whether a word is the number of a color. -/
def isColorNumber (word : List Char) : Bool :=
  match bracketed? "color" word with
  | some ds =>
    ds.length ≤ 3 && !ds.isEmpty && ds.all Char.isDigit && (decimalNumber? ds).any (· ≤ 255)
  | none => false

/-- Whether a word is a color by its parts of red, green and blue. A part that is left out is a
fault. -/
def isColorMixture (word : List Char) : Except Fault Bool :=
  match bracketed? "rgb" word with
  | some ds =>
    if ds.isEmpty || !ds.all fun d => isDecimalDigit d || d == ',' then .ok false
    else
      match threeParts? ds with
      | some (red, green, blue) =>
        if red.isEmpty || green.isEmpty || blue.isEmpty then .error .malformed
        else .ok ([red, green, blue].all fun part => (decimalNumber? part).any (· ≤ 255))
      | none => .ok false
  | none => .ok false

/-- Whether a word is a color by its hexadecimal digits. -/
def isColorCode : List Char → Bool
  | '#' :: ds => ds.length == 6 && ds.all fun d => (Hex.value? d).isSome
  | _ => false

/-- Whether a word in lower case is a color. -/
def isColor (word : List Char) : Except Fault Bool :=
  if colorNames.contains word || isColorCode word || isColorNumber word then .ok true
  else isColorMixture word

/-! ## Styles -/

/-- The attributes of a style, in the order in which a style names them. -/
def attributeNames : List (List Char) :=
  ["bold", "dim", "italic", "underline", "blink", "blink2", "reverse", "conceal", "strike",
   "underline2", "frame", "encircle", "overline"].map String.toList

/-- The short names of attributes. -/
def shortAttributes : List (List Char × List Char) :=
  [("d", "dim"), ("b", "bold"), ("i", "italic"), ("u", "underline"), ("r", "reverse"),
   ("c", "conceal"), ("s", "strike"), ("uu", "underline2"), ("o", "overline")].map
    fun (short, name) => (short.toList, name.toList)

/-- The attribute with a name, which may be short. -/
def attributeOf? (word : List Char) : Option (List Char) :=
  if attributeNames.contains word then some word else shortAttributes.lookup word

/-- A style: the attributes that it turns on or off, its colors and its link. -/
structure Style where
  attributes : List (List Char × Bool)
  color : Option (List Char)
  background : Option (List Char)
  link : Option (List Char)
  deriving DecidableEq, Repr

namespace Style

/-- The style that changes nothing. -/
def plain : Style := ⟨[], none, none, none⟩

/-- A style that also turns an attribute on or off. -/
def set (name : List Char) (isOn : Bool) (style : Style) : Style :=
  { style with attributes := (name, isOn) :: style.attributes }

/-- A style with what a row of words adds, unless one of the words has no meaning. -/
def addWords (style : Style) : List (List Char) → Except Fault (Option Style)
  | [] => .ok (some style)
  | word :: rest =>
    let small := lowerCase word
    if small = "on".toList then
      match rest with
      | [] => .ok none
      | color :: rest => do
        if ← isColor (lowerCase color) then
          addWords { style with background := some (lowerCase color) } rest
        else return none
    else if small = "not".toList then
      match rest with
      | [] => .ok none
      | name :: rest =>
        match attributeOf? name with
        | some name => addWords (style.set name false) rest
        | none => .ok none
    else if small = "link".toList then
      match rest with
      | [] => .ok none
      | address :: rest => addWords { style with link := some address } rest
    else
      match attributeOf? small with
      | some name => addWords (style.set name true) rest
      | none => do
        if ← isColor small then addWords { style with color := some small } rest
        else return none

/-- The style that a text writes, if it writes one. -/
def ofText (text : List Char) : Except Fault (Option Style) :=
  if trimWhite text = "none".toList then .ok (some plain)
  else addWords plain (wordsOf text)

/-- The words of a style in its normal form. -/
def words (style : Style) : List (List Char) :=
  (attributeNames.flatMap fun name =>
    match style.attributes.lookup name with
    | some true => [name]
    | some false => ["not".toList, name]
    | none => []) ++
  style.color.toList ++
  (style.background.toList.flatMap fun color => ["on".toList, color]) ++
  style.link.toList.flatMap fun address => ["link".toList, address]

/-- The normal form of a style. -/
def text (style : Style) : List Char :=
  if style.words.isEmpty then "none".toList else [' '].intercalate style.words

/-- The normal form of the name of a style: that of the style that it writes, or the name in lower
case where it writes none. -/
def normalName (name : List Char) : Except Fault (List Char) := do
  match ← ofText name with
  | some style => return style.text
  | none => return lowerCase (trimWhite name)

end Style

end DesignGraph.Screen
