/-!
# Tags

Text that is printed on a screen may hold tags in square brackets, such as `[bold]`, which are not
printed themselves. A tag opens a style, or closes one when a slash comes first, and may have
parameters behind an equals sign. A backslash before a tag takes its meaning away.

## Main definitions

* `DesignGraph.Screen.Tag` — a tag.
* `DesignGraph.Screen.Piece` — printed text or a tag.
* `DesignGraph.Screen.pieces` — the pieces of a text.
-/

namespace DesignGraph.Screen

/-- A tag: its name, and what stands behind an equals sign. -/
structure Tag where
  name : List Char
  parameters : Option (List Char)
  deriving DecidableEq, Repr

/-- The tag with the given text in its brackets. -/
def Tag.ofBody (body : List Char) : Tag :=
  match body.dropWhile (· != '=') with
  | _ :: parameters => ⟨body.takeWhile (· != '='), some parameters⟩
  | [] => ⟨body, none⟩

/-- The text of the style that a tag opens. -/
def Tag.style (tag : Tag) : List Char :=
  match tag.parameters with
  | some parameters => tag.name ++ ' ' :: parameters
  | none => tag.name

/-- A piece of a text. -/
inductive Piece where
  | text (cs : List Char)
  | tag (tag : Tag)
  deriving DecidableEq, Repr

/-- Whether a tag can start with a character. -/
def startsTag (c : Char) : Bool :=
  c.isLower || c == '#' || c == '/' || c == '@'

/-- What stands in the brackets of a tag, after the opening bracket, and what follows the tag. -/
def tagBody? : List Char → Option (List Char × List Char)
  | [] => none
  | c :: rest =>
    if !startsTag c then none
    else
      match rest.dropWhile fun d => d != ']' && d != '[' with
      | ']' :: after => some (c :: rest.takeWhile fun d => d != ']' && d != '[', after)
      | _ => none

/-- A text as a piece, unless it is empty. -/
def textPiece (cs : List Char) : List Piece :=
  if cs.isEmpty then [] else [.text cs]

/-- A tag behind backslashes: half of them are printed, and a tag behind an odd one is printed
too. -/
def tagPieces (slashes : Nat) (body : List Char) : List Piece :=
  textPiece (List.replicate (slashes / 2) '\\') ++
    if slashes % 2 = 1 then [.text ('[' :: body ++ [']'])] else [.tag (.ofBody body)]

/-- The text up to the first tag, and the pieces from that tag on; `bound` bounds the number of
steps. A backslash before a bracket that opens no tag is left out. -/
def piecesUpTo : Nat → List Char → List Char × List Piece
  | 0, cs => (cs, [])
  | bound + 1, cs =>
    let slashes := cs.takeWhile (· == '\\')
    match cs.dropWhile (· == '\\') with
    | [] => (slashes, [])
    | '[' :: rest =>
      match tagBody? rest with
      | some (body, after) =>
        let (text, pieces) := piecesUpTo bound after
        ([], tagPieces slashes.length body ++ textPiece text ++ pieces)
      | none =>
        let (text, pieces) := piecesUpTo bound rest
        (slashes.drop 1 ++ '[' :: text, pieces)
    | c :: rest =>
      let (text, pieces) := piecesUpTo bound rest
      (slashes ++ c :: text, pieces)

/-- The pieces of a text. -/
def pieces (cs : List Char) : List Piece :=
  let (text, pieces) := piecesUpTo (cs.length + 1) cs
  textPiece text ++ pieces

end DesignGraph.Screen
