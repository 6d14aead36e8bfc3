import DesignGraph.Screen.Grapheme
import DesignGraph.Screen.Style
/-!
# Styled text

Text of which some stretches are shown in a style. What is printed does not show the styles, but a
line is drawn stretch by stretch, and each stretch is measured and cut by itself.

## Main definitions

* `DesignGraph.Screen.Span` — a stretch in a style.
* `DesignGraph.Screen.Styled` — a text with its stretches.
* `DesignGraph.Screen.Styled.cutAt` — a text cut into parts.
* `DesignGraph.Screen.Styled.segments` — the parts of a line that are drawn one by one.
* `DesignGraph.Screen.adjust` — segments cut off or filled up to a number of cells.
-/

namespace DesignGraph.Screen

/-- The characters from the position `start` up to the position `stop`, in a style. -/
structure Span where
  start : Nat
  stop : Nat
  style : List Char
  deriving DecidableEq, Repr

/-- A text with stretches in a style. -/
structure Styled where
  chars : List Char
  spans : List Span
  deriving DecidableEq, Repr

namespace Span

/-- A span of a text behind `count` more characters. -/
def shift (count : Nat) (span : Span) : Span :=
  ⟨span.start + count, span.stop + count, span.style⟩

/-- What is left of a span in the first `length` characters. -/
def crop? (length : Nat) (span : Span) : Option Span :=
  if span.start < length then some ⟨span.start, min length span.stop, span.style⟩ else none

/-- What is left of a span in the part of a text from `start` up to `stop`, if anything. -/
def slice? (start stop : Nat) (span : Span) : Option Span :=
  let first := span.start - start
  let last := min span.stop stop - start
  if first < last then some ⟨first, last, span.style⟩ else none

end Span

namespace Styled

/-! ## Parts of a text -/

/-- The part of a text from one position up to another one. -/
def slice (t : Styled) (start stop : Nat) : Styled :=
  ⟨(t.chars.take stop).drop start, t.spans.filterMap (Span.slice? start stop)⟩

/-- The parts of a text from a position on. -/
def partsFrom (t : Styled) (start : Nat) : List Nat → List Styled
  | [] => [t.slice start t.chars.length]
  | stop :: rest => t.slice start stop :: partsFrom t stop rest

/-- A text cut at ascending positions. -/
def cutAt (t : Styled) (positions : List Nat) : List Styled :=
  if positions.isEmpty then [t] else t.partsFrom 0 positions

/-- One text behind another one. -/
def append (s t : Styled) : Styled :=
  ⟨s.chars ++ t.chars, s.spans ++ t.spans.map (Span.shift s.chars.length)⟩

/-- Texts one behind the other. -/
def join (parts : List Styled) : Styled :=
  parts.foldl append ⟨[], []⟩

/-- The first characters of a text. -/
def crop (length : Nat) (t : Styled) : Styled :=
  if length < t.chars.length then ⟨t.chars.take length, t.spans.filterMap (Span.crop? length)⟩
  else t

/-- A text with other characters under its spans. -/
def withChars (cs : List Char) (t : Styled) : Styled :=
  ⟨cs, if cs.length < t.chars.length then t.spans.filterMap (Span.crop? cs.length) else t.spans⟩

/-- A text behind so many spaces. -/
def padLeft (count : Nat) (t : Styled) : Styled :=
  ⟨spaces count ++ t.chars, t.spans.map (Span.shift count)⟩

/-- A text before so many spaces. -/
def padRight (count : Nat) (t : Styled) : Styled :=
  ⟨t.chars ++ spaces count, t.spans⟩

/-! ## Drawing -/

/-- Characters in parts that end where `isEnd` says so; the first one stands at `position`. -/
def segmentsFrom (isEnd : Nat → Bool) (position : Nat) : List Char → List (List Char)
  | [] => []
  | c :: rest =>
    match segmentsFrom isEnd (position + 1) rest with
    | [] => [[c]]
    | part :: parts =>
      if isEnd (position + 1) then [c] :: part :: parts else (c :: part) :: parts

/-- The parts of a line that are drawn one by one: they end where a span starts or stops. -/
def segments (t : Styled) : List (List Char) :=
  segmentsFrom (fun n => t.spans.any fun span => span.start == n || span.stop == n) 0 t.chars

/-- Whether the styles of a text can be read; what is no style changes nothing. -/
def check (t : Styled) : Except Fault Unit :=
  t.spans.forM fun span => do
    let _ ← Style.ofText span.style

end Styled

/-! ## Segments -/

/-- As much of a row of segments as fits. -/
def cropSegments (limit : Nat) : List (List Char) → List (List Char)
  | [] => []
  | segment :: rest =>
    if width segment < limit then segment :: cropSegments (limit - width segment) rest
    else [fit limit segment]

/-- Segments cut off or filled up with spaces to a number of cells. -/
def adjust (limit : Nat) (segments : List (List Char)) : List (List Char) :=
  let size := total (segments.map width)
  if size < limit then segments ++ [spaces (limit - size)]
  else if limit < size then cropSegments limit segments
  else segments

end DesignGraph.Screen
