/-!
# Markup

Markup as a tree: texts and tagged elements with attributes. Texts and attribute values are
escaped when the tree is written, and nowhere else can a character of theirs reach the markup.

## Main definitions

* `DesignGraph.Markup` — a piece of markup.
* `DesignGraph.Markup.escape` — a text with the characters of markup replaced.
* `DesignGraph.Markup.render`, `DesignGraph.Markup.renderAll` — markup as text.
-/

namespace DesignGraph

/-- A piece of markup. -/
inductive Markup where
  /-- A text. -/
  | text (content : String)
  /-- An element with attributes, of which those without value stand alone, and with content. -/
  | element (tag : String) (attributes : List (String × Option String)) (children : List Markup)
  /-- An element that has no content and no closing tag. -/
  | void (tag : String) (attributes : List (String × Option String))
  deriving Inhabited, Repr

namespace Markup

/-- What a character is written as. -/
def escapeChar (c : Char) : List Char :=
  match c with
  | '&' => "&amp;".toList
  | '<' => "&lt;".toList
  | '>' => "&gt;".toList
  | '"' => "&quot;".toList
  | '\'' => "&#x27;".toList
  | c => [c]

/-- A text with the characters of markup replaced. -/
def escape (s : String) : String :=
  String.ofList (s.toList.flatMap escapeChar)

/-- An attribute, after a space. -/
def renderAttribute : String × Option String → String
  | (name, some value) => " " ++ name ++ "=\"" ++ escape value ++ "\""
  | (name, none) => " " ++ name

/-- Attributes, each after a space. -/
def renderAttributes (attributes : List (String × Option String)) : String :=
  String.join (attributes.map renderAttribute)

mutual

/-- Markup as text. -/
def render : Markup → String
  | .text content => escape content
  | .element tag attributes children =>
    "<" ++ tag ++ renderAttributes attributes ++ ">" ++ renderAll children ++ "</" ++ tag ++ ">"
  | .void tag attributes => "<" ++ tag ++ renderAttributes attributes ++ " />"

/-- Pieces of markup, one after the other, as text. -/
def renderAll : List Markup → String
  | [] => ""
  | m :: rest => render m ++ renderAll rest

end

/-- An attribute with a value. -/
def attr (name value : String) : String × Option String :=
  (name, some value)

/-- Pieces of markup on lines of their own. -/
def lines (pieces : List Markup) : List Markup :=
  pieces.intersperse (.text "\n")

end Markup

end DesignGraph
