import DesignGraph.Screen.Emoji
import DesignGraph.Screen.Handler
import DesignGraph.Screen.Styled
import DesignGraph.Screen.Tag
/-!
# Markup

The styled text that a text with tags and emoji codes stands for. A closing tag closes the style
with the same normal form that was opened last, and without a name the one opened last of all;
styles that are not closed go on up to the end. Controls that would move the cursor are not
printed.

## Main definitions

* `DesignGraph.Screen.Styled.ofMarkup` — the styled text of a text with tags.
-/

namespace DesignGraph.Screen

/-- A tag that is not closed yet, with the position behind it; its name is in normal form. -/
structure OpenTag where
  start : Nat
  tag : Tag
  deriving DecidableEq, Repr

namespace OpenTag

/-- The tag that a closing tag with the given name closes, and those that stay open; the tag that
was opened last comes first. -/
def closed (name : List Char) (opened : List OpenTag) : Except Fault (OpenTag × List OpenTag) := do
  let name := trimWhite name
  if name.isEmpty then
    match opened with
    | [] => .error .unopenedStyle
    | last :: rest => return (last, rest)
  else
    let name ← Style.normalName name
    match opened.find? (·.tag.name == name) with
    | some found => return (found, opened.eraseP (·.tag.name == name))
    | none => .error .unopenedStyle

/-- The style of the text between a tag and its closing tag. The text of a handler has no style of
its own, but what it does must be well formed. -/
def closingStyle (opened : OpenTag) : Except Fault (List Char) :=
  if opened.tag.name.head? = some '@' then
    match opened.tag.parameters with
    | some parameters =>
      if parameters.isEmpty || isHandler (trimWhite parameters) then .ok []
      else .error .badHandler
    | none => .ok []
  else .ok opened.tag.style

end OpenTag

/-- Whether a character moves the cursor: bell, backspace, the tabulators and feeds but for the
horizontal tabulator and the line feed. -/
def movesCursor (c : Char) : Bool :=
  [7, 8, 11, 12, 13].contains c.toNat

namespace Styled

/-- A text with more characters behind it. -/
def write (cs : List Char) (t : Styled) : Styled :=
  ⟨t.chars ++ (showEmoji cs).filter (fun c => !movesCursor c), t.spans⟩

/-- A text with one more span, from a position up to its end. -/
def mark (start : Nat) (style : List Char) (t : Styled) : Styled :=
  ⟨t.chars, t.spans ++ [⟨start, t.chars.length, style⟩]⟩

/-- A text with pieces behind it. -/
def addPieces (t : Styled) (opened : List OpenTag) : List Piece → Except Fault Styled
  | [] => .ok (opened.foldl (fun t o => t.mark o.start o.tag.style) t)
  | .text cs :: rest => addPieces (t.write cs) opened rest
  | .tag tag :: rest =>
    match tag.name with
    | '/' :: name => do
      let (last, opened) ← OpenTag.closed name opened
      addPieces (t.mark last.start (← last.closingStyle)) opened rest
    | name => do
      let name ← Style.normalName name
      addPieces t (⟨t.chars.length, { tag with name := name }⟩ :: opened) rest

/-- The styled text of a text with tags. -/
def ofMarkup (s : String) : Except Fault Styled :=
  addPieces ⟨[], []⟩ [] (pieces s.toList)

end Styled

end DesignGraph.Screen
