import DesignGraph.Composition
import DesignGraph.Proofs.Evaluation.Display
/-!
# Layers of a composition

A composition is what its graphs display, laid one over the other. What a graph displays does not
depend on what came before it, so the effect of a single script can be read off by leaving it out.
A script without output node displays the empty text. It leaves all styles alone, but it takes the
place of the content below it; the content of a script above it, and nothing else, hides that.

## Main definitions

* `DesignGraph.Composition.Displays` — a graph displays an appearance in a composition.
* `DesignGraph.Composition.Setting.withScripts` — a composition with other scripts attached.
* `DesignGraph.Composition.GivesContent` — some attached script gives content.

## Main results

* `DesignGraph.Composition.layers_of_evaluateAll` — a composition is made of layers.
* `DesignGraph.Composition.script_without_output_blanks` — what a script that only acts does to a
  composition.
-/

set_option relaxedAutoImplicit false
set_option autoImplicit false

namespace DesignGraph

/-! ## Layers -/

namespace Composition

variable {σ : Type} {setting : Setting σ} {p q : Progress σ}

/-- A graph displays an appearance in a composition, whatever came before it. -/
def Displays (setting : Setting σ) (graph : Graph) (a : Appearance) : Prop :=
  ∃ triggers drawn outlet q,
    Evaluation.run (setting.forGraph graph) (.start triggers drawn outlet) = (.ok a, q)

/-- A steady graph displays one appearance. -/
lemma Displays.unique {graph : Graph} {a a' : Appearance} (h : Displays setting graph a)
    (h' : Displays setting graph a') (hsteady : graph.IsSteady) : a' = a := by
  obtain ⟨triggers, drawn, outlet, q, hrun⟩ := h
  obtain ⟨triggers', drawn', outlet', q', hrun'⟩ := h'
  exact Evaluation.run_alike hrun hrun' hsteady

/-- Rows of steady graphs display one row of appearances. -/
lemma displays_unique {graphs : List Graph} {layers layers' : List Appearance}
    (h : List.Forall₂ (Displays setting) graphs layers)
    (h' : List.Forall₂ (Displays setting) graphs layers')
    (hsteady : ∀ graph ∈ graphs, graph.IsSteady) : layers' = layers := by
  induction h generalizing layers' with
  | nil =>
    cases h'
    rfl
  | cons hfirst _ ih =>
    obtain _ | ⟨hfirst', hrest'⟩ := h'
    rw [hfirst.unique hfirst' (hsteady _ List.mem_cons_self),
      ih hrest' fun graph hg => hsteady graph (List.mem_cons_of_mem _ hg)]

/-- What two rows of graphs display is what the first one displays, then what the second one
does. -/
lemma displays_append {below above : List Graph} {layers : List Appearance}
    (h : List.Forall₂ (Displays setting) (below ++ above) layers) :
    ∃ lower upper, List.Forall₂ (Displays setting) below lower ∧
      List.Forall₂ (Displays setting) above upper ∧ layers = lower ++ upper := by
  induction below generalizing layers with
  | nil => exact ⟨[], layers, .nil, h, rfl⟩
  | cons graph rest ih =>
    obtain _ | ⟨hfirst, hrest⟩ := h
    obtain ⟨lower, upper, hlower, hupper, rfl⟩ := ih hrest
    exact ⟨_ :: lower, upper, .cons hfirst hlower, hupper, rfl⟩

/-- **A composition is made of layers**, one for each graph, in order. -/
theorem layers_of_evaluateAll {graphs : List Graph} {below computed : Appearance}
    (h : evaluateAll setting graphs below p = (.ok computed, q)) :
    ∃ layers, List.Forall₂ (Displays setting) graphs layers ∧
      computed = layers.foldl overlay below := by
  induction graphs generalizing below p with
  | nil =>
    cases h
    exact ⟨[], .nil, rfl⟩
  | cons graph rest ih =>
    rw [evaluateAll] at h
    rcases hrun : Evaluation.run (setting.forGraph graph) (setting.start p) with ⟨_ | a, q'⟩
    · rw [hrun] at h
      cases h
    · rw [hrun] at h
      obtain ⟨layers, hlayers, rfl⟩ := ih h
      exact ⟨a :: layers, .cons ⟨_, _, _, _, hrun⟩ hlayers, rfl⟩

/-- A composition that returns has evaluated all graphs of its element. -/
lemma evaluateAll_of_compose {c : Composition} (h : compose setting p = (.ok c, q)) :
    ∃ graphs computed, setting.element.graphs setting.project = .ok graphs ∧
      evaluateAll setting graphs bare p = (.ok computed, q) ∧
      c = ofComputed setting.element computed (!graphs.isEmpty) := by
  rw [compose] at h
  rcases hgraphs : setting.element.graphs setting.project with fault | graphs
  · rw [hgraphs] at h
    cases h
  rw [hgraphs] at h
  dsimp only at h
  rcases hall : evaluateAll setting graphs bare p with ⟨_ | computed, q₁⟩
  · rw [hall] at h
    cases h
  · rw [hall] at h
    cases h
    exact ⟨graphs, computed, rfl, hall, rfl⟩

/-- A layer has content exactly if its graph gives content. -/
lemma Displays.givesContent {graph : Graph} {a : Appearance} (h : Displays setting graph a) :
    a.content.isSome = graph.givesContent := by
  obtain ⟨triggers, drawn, outlet, q, hrun⟩ := h
  exact Evaluation.run_givesContent hrun

/-- Some layer has content exactly if some graph gives content. -/
lemma exists_content_iff {graphs : List Graph} {layers : List Appearance}
    (h : List.Forall₂ (Displays setting) graphs layers) :
    (∃ layer ∈ layers, layer.content.isSome = true) ↔
      ∃ graph ∈ graphs, graph.givesContent = true := by
  induction h with
  | nil => simp
  | cons hfirst _ ih => simp [hfirst.givesContent, ih]

/-- Laid over the same style, the same layers give the same style. -/
lemma style_foldl_overlay (layers : List Appearance) {a b : Appearance} (h : a.style = b.style) :
    (layers.foldl overlay a).style = (layers.foldl overlay b).style := by
  induction layers generalizing a b with
  | nil => exact h
  | cons layer rest ih => exact ih (by simp only [overlay, h])

/-- Layers of style keep keys apart. -/
lemma nodup_keys_foldl_overlay (layers : List Appearance) {below : Appearance}
    (h : (Fields.keys below.style).Nodup) :
    (Fields.keys (layers.foldl overlay below).style).Nodup := by
  induction layers generalizing below with
  | nil => exact h
  | cons layer rest ih => exact ih (Fields.nodup_keys_merge h layer.style)

/-- Layers with content hide the content below them; other layers let it through. -/
lemma content_foldl_overlay (layers : List Appearance) (a : Appearance) :
    (layers.foldl overlay a).content = (layers.foldl overlay bare).content.or a.content := by
  induction layers generalizing a with
  | nil => rfl
  | cons layer rest ih =>
    rw [List.foldl_cons, ih, List.foldl_cons, ih (overlay bare layer)]
    rcases (rest.foldl overlay bare).content with _ | text <;> simp [overlay, bare]

/-- There is content over nothing exactly if some layer has content. -/
lemma isSome_content_foldl_overlay (layers : List Appearance) :
    (layers.foldl overlay bare).content.isSome = true ↔
      ∃ layer ∈ layers, layer.content.isSome = true := by
  induction layers with
  | nil => simp [bare]
  | cons layer rest ih =>
    rw [List.foldl_cons, content_foldl_overlay, Option.isSome_or, Bool.or_eq_true, ih,
      List.exists_mem_cons_iff]
    simp [overlay, bare, or_comm]

/-- The empty text laid over an appearance keeps its style and takes the place of its content. -/
lemma overlay_blank (a : Appearance) : overlay a ⟨[], some ""⟩ = ⟨a.style, some ""⟩ :=
  rfl

end Composition

/-! ## Scripts -/

namespace Element

/-- The scripts that exist among two rows of ids are those of the first one, then those of the
second one. -/
lemma scriptGraphs_append (project : Project) (ids ids' : List String) :
    scriptGraphs project (ids ++ ids') = (do
      let before ← scriptGraphs project ids
      return before ++ (← scriptGraphs project ids')) := by
  induction ids with
  | nil =>
    rw [List.nil_append]
    rcases hids : scriptGraphs project ids' with fault | after <;> rfl
  | cons id rest ih =>
    simp only [List.cons_append, scriptGraphs, ih, bind_assoc, pure_bind, List.append_assoc]

/-- A script that exists stands among the graphs of an element, and leaving it out leaves the
others. -/
lemma graphs_of_script {element : Element} {project : Project} {before after : List String}
    {id : String} {script : Graph} {graphs : List Graph}
    (hscripts : element.scripts = before ++ id :: after)
    (hscript : project.script (.str id) = .ok (some script))
    (h : element.graphs project = .ok graphs) :
    ∃ below above, scriptGraphs project after = .ok above ∧ graphs = below ++ script :: above ∧
      { element with scripts := before ++ after }.graphs project = .ok (below ++ above) := by
  have hsame : { element with scripts := before ++ after }.definition project =
      element.definition project := rfl
  rw [Element.graphs, hscripts, scriptGraphs_append, scriptGraphs, hscript] at h
  rw [Element.graphs, hsame, scriptGraphs_append]
  rcases hdefinition : element.definition project with fault | definition
  · rw [hdefinition] at h
    cases h
  rcases hearly : scriptGraphs project before with fault | early
  · rw [hdefinition, hearly] at h
    cases h
  rcases hlate : scriptGraphs project after with fault | late
  · rw [hdefinition, hearly, hlate] at h
    cases h
  rw [hdefinition, hearly, hlate] at h
  refine ⟨definition.toList ++ early, late, rfl, ?_, ?_⟩
  · rw [← Except.ok.inj h]
    simp
  · rw [List.append_assoc]
    rfl

end Element

namespace Composition

variable {σ : Type} {setting : Setting σ} {p q p' q' : Progress σ}

/-- The composition of the same element with other scripts attached. -/
def Setting.withScripts (setting : Setting σ) (scripts : List String) : Setting σ :=
  { setting with element := { setting.element with scripts := scripts } }

/-- Some of the attached scripts gives content. -/
def GivesContent (project : Project) (scripts : List String) : Prop :=
  ∃ graphs, Element.scriptGraphs project scripts = .ok graphs ∧
    ∃ graph ∈ graphs, graph.givesContent = true

/-- A composition that returns lays what its graphs display one over the other. -/
lemma compose_ok {c : Composition} (h : compose setting p = (.ok c, q)) :
    ∃ graphs layers, setting.element.graphs setting.project = .ok graphs ∧
      List.Forall₂ (Displays setting) graphs layers ∧
      c = ofComputed setting.element (layers.foldl overlay bare) (!graphs.isEmpty) := by
  obtain ⟨graphs, computed, hgraphs, hall, rfl⟩ := evaluateAll_of_compose h
  obtain ⟨layers, hlayers, rfl⟩ := layers_of_evaluateAll hall
  exact ⟨graphs, layers, hgraphs, hlayers, rfl⟩

/-- **What a script without output node does to a composition.** Let an element be composed with
such a script among others, none of them random, and without it. The styles are the same. If a
later script gives content, then the contents are the same as well; else the script blanks the
content, and they are the same only if the content was computed to be empty without it. -/
theorem script_without_output_blanks {before after : List String} {id : String} {script : Graph}
    {c c' : Composition} (hscripts : setting.element.scripts = before ++ id :: after)
    (hscript : setting.project.script (.str id) = .ok (some script))
    (hout : script.output? = none)
    (hsteady : ∀ graphs, setting.element.graphs setting.project = .ok graphs →
      ∀ graph ∈ graphs, graph.IsSteady)
    (h : compose setting p = (.ok c, q))
    (h' : compose (setting.withScripts (before ++ after)) p' = (.ok c', q')) :
    c.style = c'.style ∧ c.computed.style = c'.computed.style ∧
      (c.content = c'.content ∧ c.computed.content = c'.computed.content ↔
        GivesContent setting.project after ∨ c'.computed.content = some "") ∧
      (¬GivesContent setting.project after → c.content = "" ∧ c.computed.content = some "") := by
  obtain ⟨graphs, layers, hgraphs, hlayers, rfl⟩ := compose_ok h
  obtain ⟨graphs', layers', hgraphs', hlayers', rfl⟩ := compose_ok h'
  obtain ⟨below, above, habove, rfl, hwithout⟩ :=
    Element.graphs_of_script hscripts hscript hgraphs
  cases hgraphs'.symm.trans hwithout
  have hlayers' : List.Forall₂ (Displays setting) (below ++ above) layers' := hlayers'
  have hgiven :
      GivesContent setting.project after ↔ ∃ graph ∈ above, graph.givesContent = true := by
    simp [GivesContent, habove]
  -- the layers without the script are those with it, the blank one left out
  obtain ⟨lower, rest, hlower, hrest, rfl⟩ := displays_append hlayers
  obtain _ | @⟨_, blank, _, upper, hblank, hupper⟩ := hrest
  obtain rfl : blank = ⟨[], some ""⟩ := by
    obtain ⟨triggers, drawn, outlet, q, hrun⟩ := hblank
    exact Evaluation.run_without_output hrun hout
  obtain rfl : layers' = lower ++ upper := by
    refine displays_unique (List.rel_append hlower hupper) hlayers' fun graph hg => ?_
    refine hsteady _ hgraphs graph ?_
    simpa [or_assoc, or_left_comm] using Or.inr hg
  have hstyle : ((lower ++ ⟨[], some ""⟩ :: upper).foldl overlay bare).style =
      ((lower ++ upper).foldl overlay bare).style := by
    simp only [List.foldl_append, List.foldl_cons]
    exact style_foldl_overlay upper rfl
  have hcontent : ((lower ++ ⟨[], some ""⟩ :: upper).foldl overlay bare).content =
      (upper.foldl overlay bare).content.or (some "") := by
    rw [List.foldl_append, List.foldl_cons, content_foldl_overlay, overlay_blank]
  have hcontent' : ((lower ++ upper).foldl overlay bare).content =
      (upper.foldl overlay bare).content.or (lower.foldl overlay bare).content := by
    rw [List.foldl_append, content_foldl_overlay]
  rw [hgiven, ← exists_content_iff hupper, ← isSome_content_foldl_overlay]
  simp only [ofComputed, hstyle, hcontent, hcontent', Setting.withScripts, true_and]
  rcases (upper.foldl overlay bare).content with _ | text
  · rcases (lower.foldl overlay bare).content with _ | text
    · simp
    · simp [eq_comm]
  · simp

/-! ## A greeting -/

/-- A heading with a text of its own and the given scripts attached. -/
def greeting (scripts : List String) : Element where
  id := "greeting"
  kind := "HEADING"
  pageId := some "home"
  parentId := none
  x := .int 0
  y := .int 0
  width := .int 1
  height := .int 1
  style := []
  content := some "Hello"
  componentId := none
  ownGraph := none
  isDetached := false
  scripts := scripts
  overrides := []
  src := none
  alt := none
  videoOptions := []

/-- The greeting among two scripts: one asks for a page on a click, the other one says good-bye. -/
def greetings (scripts : List String) : Project where
  elements := [greeting scripts]
  pages := [⟨"home", .null⟩]
  width := .int 1
  height := .int 1
  components := []
  scripts := [
    ⟨[⟨"click", "INTERACTION_CLICK", []⟩, ⟨"go", "NAVIGATE", [("value", .str "about")]⟩],
      [⟨"click", "go", "in-trigger"⟩], .str "leave", .null⟩,
    ⟨[⟨"text", "TEXT", [("value", .str "Bye")]⟩, ⟨"out", "OUTPUT", []⟩],
      [⟨"text", "out", "in-content"⟩], .str "part", .null⟩]

/-- The greeting as it is composed at the start. -/
def greeted (scripts : List String) : Setting Unit :=
  ⟨greetings scripts, greeting scripts, .initial, halves, false, discard⟩

/-- The start of a composition with nothing remembered. -/
def blankStart : Progress Unit :=
  ⟨[], 0, ()⟩

/-- A greeting that asks for a page and then says good-bye says what it says without the first
script. -/
theorem greeting_parts :
    let full := compose (greeted ["leave", "part"]) blankStart
    let less := compose ((greeted ["leave", "part"]).withScripts ["part"]) blankStart
    ∃ c c', full.1 = .ok c ∧ less.1 = .ok c' ∧ c.content = c'.content ∧ c'.content = "Bye" := by
  intro full less
  let c : Composition := ofComputed (greeting []) ⟨[], some "Bye"⟩ true
  have hfull : full.1 = .ok c := by decide
  have hless : less.1 = .ok c := by decide
  have hgraphs : (greeted ["leave", "part"]).element.graphs (greeted ["leave", "part"]).project =
      .ok (greetings []).scripts := by decide
  have hsteady : ∀ graphs, (greeted ["leave", "part"]).element.graphs
      (greeted ["leave", "part"]).project = .ok graphs → ∀ graph ∈ graphs, graph.IsSteady := by
    intro graphs h
    cases hgraphs.symm.trans h
    decide
  have hlater : GivesContent (greeted ["leave", "part"]).project ["part"] :=
    ⟨(greetings []).scripts.tail, by decide, by decide⟩
  have hscript : (greeted ["leave", "part"]).project.script (.str "leave") =
      .ok (some ((greetings []).scripts.headD ⟨[], [], .null, .null⟩)) := by decide
  have hscripts : (greeted ["leave", "part"]).element.scripts = [] ++ "leave" :: ["part"] := rfl
  obtain ⟨-, -, hsame, -⟩ := script_without_output_blanks hscripts hscript (by decide) hsteady
    (Prod.ext hfull rfl) (Prod.ext hless rfl)
  exact ⟨c, c, hfull, hless, (hsame.2 (.inl hlater)).1, by decide⟩

/-- **A script that only asks for a page takes a greeting away.** -/
theorem greeting_blanked :
    (greeted ["leave"]).project.script (.str "leave") = .ok (greetings []).scripts.head? ∧
      (greetings []).scripts.head?.bind Graph.output? = none ∧
      (∀ graph ∈ (greetings []).scripts, graph.IsSteady) ∧
      (compose (greeted ["leave"]) blankStart).1.map content = .ok "" ∧
      (compose ((greeted ["leave"]).withScripts []) blankStart).1.map content = .ok "Hello" := by
  decide

end Composition

end DesignGraph
