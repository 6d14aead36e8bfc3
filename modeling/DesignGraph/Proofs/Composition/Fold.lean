import DesignGraph.Proofs.Composition.Layers
import DesignGraph.Proofs.Outcome
import Mathlib.Data.List.ReduceOption
/-!
# A composition is a fold

Writing fields over others moves values and keeps places: a known key stays where it is, a new one
goes last. Merging styles is associative all the same, order included, and a composition merges the
styles of its graphs one after the other. So it may be taken apart at any script: the scripts that
follow, composed by themselves from what the others have left, give a second composition, and the
two merged are the whole.

## Main definitions

* `DesignGraph.Composition.Evaluates` — graphs that are evaluated one after the other.
* `DesignGraph.Composition.stacked` — appearances merged, the last content counting.
* `DesignGraph.Composition.Setting.onlyScripts` — the composition of scripts by themselves.

## Main results

* `DesignGraph.Fields.merge_merge` — fields that are merged first may be merged one by one.
* `DesignGraph.Operation.mergeStyles_assoc` — merging styles is associative.
* `DesignGraph.Composition.compose_is_fold` — a composition is a fold, and can be split.
-/

set_option relaxedAutoImplicit false
set_option autoImplicit false

namespace DesignGraph

/-! ## Merging fields -/

namespace Fields

/-- The last of two writes to one key counts. -/
theorem put_put {α : Type} (key : String) (a b : α) (fields : List (String × α)) :
    put key b (put key a fields) = put key b fields := by
  induction fields with
  | nil => simp [put]
  | cons field rest ih =>
    obtain ⟨k, c⟩ := field
    by_cases hk : k = key <;> simp [put, hk, ih]

/-- A write to a known key may come after a write to another key. -/
theorem put_comm {α : Type} {key key' : String} (hne : key ≠ key') (a b : α)
    {fields : List (String × α)} (h : key ∈ keys fields) :
    put key a (put key' b fields) = put key' b (put key a fields) := by
  induction fields with
  | nil => cases h
  | cons field rest ih =>
    obtain ⟨k, c⟩ := field
    by_cases hk : k = key
    · subst hk
      simp [put, hne]
    · have hrest : key ∈ keys rest := by simpa [Ne.symm hk] using h
      by_cases hk' : k = key'
      · simp [put, hk', Ne.symm hne]
      · simp [put, hk, hk', ih hrest]

/-- A written key is there. -/
theorem mem_keys_put {α : Type} (key : String) (a : α) (fields : List (String × α)) :
    key ∈ keys (put key a fields) := by
  by_cases h : key ∈ keys fields
  · rwa [keys_put_of_mem a h]
  · rw [keys_put_of_not_mem a h]
    exact List.mem_append_right _ List.mem_cons_self

/-- A write to a known key may come after other keys are written. -/
theorem put_merge {key : String} (a : Value) {base update : Fields} (hbase : key ∈ keys base)
    (hupdate : key ∉ keys update) :
    put key a (merge base update) = merge (put key a base) update := by
  induction update generalizing base with
  | nil => rfl
  | cons field rest ih =>
    obtain ⟨k, b⟩ := field
    obtain ⟨hne, hrest⟩ := not_or.1 (mt List.mem_cons.2 hupdate)
    have hmem : key ∈ keys (put k b base) := by
      by_cases hk : k ∈ keys base
      · rwa [keys_put_of_mem b hk]
      · rw [keys_put_of_not_mem b hk]
        exact List.mem_append_left _ hbase
    show put key a (merge (put k b base) rest) = merge (put k b (put key a base)) rest
    rw [ih hmem hrest, put_comm hne a b hbase]

/-- A field that is written to an update is written last. -/
theorem merge_put {base update : Fields} (h : (keys update).Nodup) (key : String) (a : Value) :
    merge base (put key a update) = put key a (merge base update) := by
  induction update generalizing base with
  | nil => rfl
  | cons field rest ih =>
    obtain ⟨k, b⟩ := field
    obtain ⟨hnew, hrest⟩ := List.nodup_cons.1 h
    by_cases hk : k = key
    · subst hk
      rw [put, if_pos rfl]
      show merge (put k a base) rest = put k a (merge (put k b base) rest)
      rw [put_merge a (mem_keys_put k b base) hnew, put_put]
    · rw [put, if_neg hk]
      exact ih hrest

/-- **Fields that are merged first may be merged one by one**, order included. -/
theorem merge_merge (base : Fields) {update : Fields} (h : (keys update).Nodup) (more : Fields) :
    merge base (merge update more) = merge (merge base update) more := by
  induction more generalizing update with
  | nil => rfl
  | cons field rest ih =>
    show merge base (merge (put field.1 field.2 update) rest) =
      merge (put field.1 field.2 (merge base update)) rest
    rw [ih (nodup_keys_put h _ _), merge_put h]

/-- Fields with different keys are written to nothing as they are. -/
theorem merge_nil_left {fields : Fields} (h : (keys fields).Nodup) : merge [] fields = fields :=
  merge_of_nodup h

theorem nodup_keys_nil : (keys ([] : Fields)).Nodup :=
  List.nodup_nil

/-- Fields that are written to nothing have different keys. -/
theorem nodup_keys_merge_nil (update : Fields) : (keys (merge [] update)).Nodup :=
  nodup_keys_merge nodup_keys_nil update

/-- Fields may be written to nothing first. -/
theorem merge_merge_nil (base update : Fields) : merge base (merge [] update) = merge base update :=
  merge_merge base nodup_keys_nil update

end Fields

namespace Operation

open Fields

/-- **Merging styles is associative**, order included; what is no style counts as an empty one. -/
theorem mergeStyles_assoc (a b c : Value) :
    mergeStyles (mergeStyles a b) c = mergeStyles a (mergeStyles b c) := by
  have hfirst : (keys (Fields.merge (Fields.merge [] a.fields) b.fields)).Nodup :=
    nodup_keys_merge (nodup_keys_merge_nil _) _
  have hlast : (keys (Fields.merge [] b.fields)).Nodup := nodup_keys_merge_nil _
  show Value.obj (Fields.merge (Fields.merge [] (Fields.merge (Fields.merge [] a.fields) b.fields))
    c.fields) = .obj (Fields.merge (Fields.merge [] a.fields)
      (Fields.merge (Fields.merge [] b.fields) c.fields))
  rw [merge_nil_left hfirst, merge_merge _ hlast, merge_merge_nil]

end Operation

/-! ## Compositions -/

namespace Element

/-- The attached scripts that exist are found one by one; unknown ids are skipped. -/
theorem scriptGraphs_eq (project : Project) (ids : List String) :
    scriptGraphs project ids =
      (ids.mapM fun id => project.script (.str id)).map List.reduceOption := by
  induction ids with
  | nil => rfl
  | cons id rest ih =>
    rw [scriptGraphs, ih, List.mapM_cons]
    rcases project.script (.str id) with fault | script
    · rfl
    rcases rest.mapM fun id => project.script (.str id) with fault | found
    · rfl
    · rcases script with _ | graph <;> rfl

/-- The graphs of an element are that of its definition, then those of the scripts that exist. -/
theorem graphs_eq_ok_iff {element : Element} {project : Project} {graphs : List Graph} :
    element.graphs project = .ok graphs ↔
      ∃ definition found, element.definition project = .ok definition ∧
        element.scripts.mapM (fun id => project.script (.str id)) = .ok found ∧
        graphs = definition.toList ++ found.reduceOption := by
  rw [Element.graphs, bind_eq_ok]
  simp only [scriptGraphs_eq, bind_eq_ok]
  constructor
  · rintro ⟨definition, hdefinition, scripts, hscripts, hgraphs⟩
    cases hgraphs
    rcases hfound : element.scripts.mapM fun id => project.script (.str id) with fault | found
    · rw [hfound] at hscripts
      cases hscripts
    · rw [hfound] at hscripts
      cases hscripts
      exact ⟨definition, found, hdefinition, rfl, rfl⟩
  · rintro ⟨definition, found, hdefinition, hfound, rfl⟩
    exact ⟨definition, hdefinition, found.reduceOption, by rw [hfound]; rfl, rfl⟩

/-- The graphs of an element with two rows of scripts are those with the first row, then those of
an element that no graph defines with the second one. -/
theorem graphs_append_iff {element : Element} {project : Project} {before after : List String}
    {graphs : List Graph} :
    { element with scripts := before ++ after }.graphs project = .ok graphs ↔
      ∃ lower upper, { element with scripts := before }.graphs project = .ok lower ∧
        { element with kind := "", scripts := after }.graphs project = .ok upper ∧
        graphs = lower ++ upper := by
  constructor
  · intro h
    obtain ⟨definition, hdefinition, h⟩ := bind_eq_ok.1 h
    obtain ⟨scripts, hscripts, h⟩ := bind_eq_ok.1 h
    cases h
    obtain ⟨lower, hlower, hscripts⟩ :=
      bind_eq_ok.1 ((scriptGraphs_append _ _ _).symm.trans hscripts)
    obtain ⟨upper, hupper, hscripts⟩ := bind_eq_ok.1 hscripts
    cases hscripts
    exact ⟨definition.toList ++ lower, upper,
      bind_eq_ok.2 ⟨definition, hdefinition, bind_eq_ok.2 ⟨lower, hlower, rfl⟩⟩,
      bind_eq_ok.2 ⟨none, rfl, bind_eq_ok.2 ⟨upper, hupper, rfl⟩⟩,
      (List.append_assoc _ _ _).symm⟩
  · rintro ⟨lower, upper, hlower, hupper, rfl⟩
    obtain ⟨definition, hdefinition, hlower⟩ := bind_eq_ok.1 hlower
    obtain ⟨early, hearly, hlower⟩ := bind_eq_ok.1 hlower
    obtain ⟨_, hnone, hupper⟩ := bind_eq_ok.1 hupper
    obtain ⟨late, hlate, hupper⟩ := bind_eq_ok.1 hupper
    cases hnone
    cases hlower
    cases hupper
    rw [List.append_assoc]
    refine bind_eq_ok.2 ⟨definition, hdefinition, bind_eq_ok.2 ⟨early ++ late, ?_, rfl⟩⟩
    rw [scriptGraphs_append]
    exact bind_eq_ok.2 ⟨early, hearly, bind_eq_ok.2 ⟨late, hlate, rfl⟩⟩

end Element

namespace Composition

open Fields Operation

variable {σ : Type} {setting : Setting σ} {p q r : Progress σ}

/-! ### Evaluations in a row -/

/-- Graphs are evaluated one after the other, each from what the one before it has left, and give
appearances. -/
inductive Evaluates (setting : Setting σ) :
    List Graph → List Appearance → Progress σ → Progress σ → Prop
  | nil {p : Progress σ} : Evaluates setting [] [] p p
  | cons {graph graphs a layers p q r}
    (hrun : Evaluation.run (setting.forGraph graph) (setting.start p) = (.ok a, q))
    (h : Evaluates setting graphs layers (.after q) r) :
    Evaluates setting (graph :: graphs) (a :: layers) p r

/-- What comes of two rows of graphs comes of the first one, then of the second one. -/
theorem evaluates_append_iff {below above : List Graph} {layers : List Appearance} :
    Evaluates setting (below ++ above) layers p r ↔ ∃ lower upper q,
      Evaluates setting below lower p q ∧ Evaluates setting above upper q r ∧
        layers = lower ++ upper := by
  constructor
  · intro h
    induction below generalizing layers p with
    | nil => exact ⟨[], layers, p, .nil, h, rfl⟩
    | cons graph rest ih =>
      obtain _ | ⟨hrun, hrest⟩ := h
      obtain ⟨lower, upper, q, hlower, hupper, rfl⟩ := ih hrest
      exact ⟨_ :: lower, upper, q, .cons hrun hlower, hupper, rfl⟩
  · rintro ⟨lower, upper, q, hlower, hupper, rfl⟩
    induction hlower with
    | nil => exact hupper
    | cons hrun _ ih => exact .cons hrun (ih hupper)

/-- Graphs that are laid one over the other are evaluated in a row. -/
theorem evaluateAll_eq_ok_iff {graphs : List Graph} {below computed : Appearance} :
    evaluateAll setting graphs below p = (.ok computed, q) ↔
      ∃ layers, Evaluates setting graphs layers p q ∧ computed = layers.foldl overlay below := by
  constructor
  · intro h
    induction graphs generalizing below p with
    | nil =>
      cases h
      exact ⟨[], .nil, rfl⟩
    | cons graph rest ih =>
      rw [evaluateAll] at h
      rcases hrun : Evaluation.run (setting.forGraph graph) (setting.start p) with ⟨_ | a, q'⟩
      · rw [hrun] at h
        cases h
      · rw [hrun] at h
        obtain ⟨layers, hlayers, rfl⟩ := ih h
        exact ⟨a :: layers, .cons hrun hlayers, rfl⟩
  · rintro ⟨layers, hlayers, rfl⟩
    induction hlayers generalizing below with
    | nil => rfl
    | cons hrun _ ih =>
      rw [evaluateAll, hrun]
      exact ih

/-! ### Appearances laid over one another -/

/-- Appearances merged in order: the styles are merged, and the last content counts. -/
def stacked (layers : List Appearance) : Appearance where
  style := ((layers.map fun layer => Value.obj layer.style).foldl mergeStyles (.obj [])).fields
  content := (layers.filterMap (·.content)).getLast?

/-- Laying appearances over one that has different keys is merging them. -/
theorem foldl_overlay_eq (layers : List Appearance) {below : Appearance}
    (h : (keys below.style).Nodup) : layers.foldl overlay below =
      ⟨((layers.map fun layer => .obj layer.style).foldl mergeStyles (.obj below.style)).fields,
        (layers.filterMap (·.content)).getLast?.or below.content⟩ := by
  induction layers generalizing below with
  | nil => rfl
  | cons layer rest ih =>
    have hstyle : mergeStyles (.obj below.style) (.obj layer.style) =
        .obj (overlay below layer).style := by
      show Value.obj (Fields.merge (Fields.merge [] below.style) layer.style) = _
      rw [merge_nil_left h]
      rfl
    have hcontent : ((layer :: rest).filterMap (·.content)).getLast?.or below.content =
        (rest.filterMap (·.content)).getLast?.or (overlay below layer).content := by
      rcases hlayer : layer.content with _ | text
      · simp [overlay, hlayer]
      · rcases hrest : (rest.filterMap (·.content)).getLast? with _ | last <;>
          simp [overlay, hlayer, List.getLast?_cons, hrest]
    rw [List.foldl_cons, ih (nodup_keys_merge h _), List.map_cons, List.foldl_cons, hstyle,
      hcontent]

/-- Laying appearances over nothing is merging them. -/
theorem foldl_overlay_bare (layers : List Appearance) :
    layers.foldl overlay bare = stacked layers := by
  have hbare : (keys bare.style).Nodup := nodup_keys_nil
  rw [foldl_overlay_eq layers hbare]
  simp [stacked, bare]

/-- Appearances may be laid over one another before they are laid over another one. -/
theorem foldl_overlay (layers : List Appearance) (below : Appearance) :
    layers.foldl overlay below = overlay below (layers.foldl overlay bare) := by
  induction layers generalizing below with
  | nil => rfl
  | cons layer rest ih =>
    rw [List.foldl_cons, ih, List.foldl_cons, ih (overlay bare layer)]
    simp only [overlay, bare, Option.or_none, Option.or_assoc, merge_merge_nil,
      merge_merge _ (nodup_keys_merge_nil layer.style)]

/-- **Two rows of appearances may be merged each by itself.** -/
theorem stacked_append (lower upper : List Appearance) :
    stacked (lower ++ upper) = stacked [stacked lower, stacked upper] := by
  have hbare : (keys bare.style).Nodup := nodup_keys_nil
  have hnodup : (keys (lower.foldl overlay bare).style).Nodup :=
    nodup_keys_foldl_overlay lower hbare
  have hlower : overlay bare (lower.foldl overlay bare) = lower.foldl overlay bare := by
    show Appearance.mk (Fields.merge [] (lower.foldl overlay bare).style) (Option.or _ none) = _
    rw [merge_nil_left hnodup, Option.or_none]
  simp only [← foldl_overlay_bare, List.foldl_append, List.foldl_cons, List.foldl_nil]
  rw [foldl_overlay upper, hlower]

/-! ### Composing -/

/-- Only what graphs are evaluated with matters for evaluations in a row. -/
theorem Evaluates.congr {setting' : Setting σ} {graphs : List Graph} {layers : List Appearance}
    (h : Evaluates setting graphs layers p q) (hgraph : setting'.forGraph = setting.forGraph)
    (hstart : setting'.start = setting.start) : Evaluates setting' graphs layers p q := by
  induction h with
  | nil => exact .nil
  | cons hrun _ ih => exact .cons (by rw [hgraph, hstart, hrun]) ih

/-- A composition that returns merges what its graphs give, one after the other. -/
theorem compose_eq_ok_iff {c : Composition} : compose setting p = (.ok c, q) ↔
    ∃ graphs layers, setting.element.graphs setting.project = .ok graphs ∧
      Evaluates setting graphs layers p q ∧
      c = ofComputed setting.element (stacked layers) (!graphs.isEmpty) := by
  constructor
  · intro h
    obtain ⟨graphs, computed, hgraphs, hall, rfl⟩ := evaluateAll_of_compose h
    obtain ⟨layers, hlayers, rfl⟩ := evaluateAll_eq_ok_iff.1 hall
    exact ⟨graphs, layers, hgraphs, hlayers, by rw [foldl_overlay_bare]⟩
  · rintro ⟨graphs, layers, hgraphs, hlayers, rfl⟩
    have hall : evaluateAll setting graphs bare p = (.ok (layers.foldl overlay bare), q) :=
      evaluateAll_eq_ok_iff.2 ⟨layers, hlayers, rfl⟩
    rw [compose, hgraphs]
    simp only [hall, foldl_overlay_bare]

/-- The composition of scripts by themselves: they are attached to the same element, but no graph
defines it. -/
def Setting.onlyScripts (setting : Setting σ) (scripts : List String) : Setting σ :=
  { setting with element := { setting.element with kind := "", scripts := scripts } }

/-- **The scripts of a composition may be split anywhere**: the first ones are composed, then the
others by themselves from what was left, and the two merged are the whole. -/
theorem compose_append_iff {before after : List String} {c : Composition} :
    compose (setting.withScripts (before ++ after)) p = (.ok c, q) ↔
      ∃ c₁ c₂ q₁, compose (setting.withScripts before) p = (.ok c₁, q₁) ∧
        compose (setting.onlyScripts after) q₁ = (.ok c₂, q) ∧
        c = ofComputed setting.element (stacked [c₁.computed, c₂.computed])
          (c₁.dynamic || c₂.dynamic) := by
  have hdynamic (lower upper : List Graph) :
      (!(lower ++ upper).isEmpty) = (!lower.isEmpty || !upper.isEmpty) := by
    cases lower <;> rfl
  simp only [compose_eq_ok_iff]
  constructor
  · rintro ⟨graphs, layers, hgraphs, hlayers, rfl⟩
    obtain ⟨lower, upper, hlower, hupper, rfl⟩ := Element.graphs_append_iff.1 hgraphs
    obtain ⟨lowest, highest, q₁, hfirst, hsecond, rfl⟩ := evaluates_append_iff.1 hlayers
    refine ⟨_, _, q₁, ⟨lower, lowest, hlower, hfirst.congr rfl rfl, rfl⟩,
      ⟨upper, highest, hupper, hsecond.congr rfl rfl, rfl⟩, ?_⟩
    rw [hdynamic, stacked_append]
    rfl
  · rintro ⟨_, _, q₁, ⟨lower, lowest, hlower, hfirst, rfl⟩, ⟨upper, highest, hupper, hsecond, rfl⟩,
      rfl⟩
    refine ⟨lower ++ upper, lowest ++ highest,
      Element.graphs_append_iff.2 ⟨lower, upper, hlower, hupper, rfl⟩,
      evaluates_append_iff.2
        ⟨lowest, highest, q₁, hfirst.congr rfl rfl, hsecond.congr rfl rfl, rfl⟩,
      ?_⟩
    rw [hdynamic, stacked_append]
    rfl

/-- **A composition is a fold of its graphs.** Merging styles is associative, order included. A
composition evaluates its graphs one after the other, the definition first, then the scripts that
exist; it merges their styles from the left, and the last content counts. So its scripts may be
split anywhere: the first ones are composed, then the others by themselves from what was left, and
the two merged are the whole, with the same triggers, samples and fired actions. -/
theorem compose_is_fold (setting : Setting σ) (p : Progress σ) :
    (∀ a b c, mergeStyles (mergeStyles a b) c = mergeStyles a (mergeStyles b c)) ∧
    (∀ c q, compose setting p = (.ok c, q) ↔
      ∃ definition found layers, setting.element.definition setting.project = .ok definition ∧
        setting.element.scripts.mapM (fun id => setting.project.script (.str id)) = .ok found ∧
        Evaluates setting (definition.toList ++ found.reduceOption) layers p q ∧
        c = ofComputed setting.element (stacked layers)
          (!(definition.toList ++ found.reduceOption).isEmpty)) ∧
    ∀ before after c q, compose (setting.withScripts (before ++ after)) p = (.ok c, q) ↔
      ∃ c₁ c₂ q₁, compose (setting.withScripts before) p = (.ok c₁, q₁) ∧
        compose (setting.onlyScripts after) q₁ = (.ok c₂, q) ∧
        c = ofComputed setting.element (stacked [c₁.computed, c₂.computed])
          (c₁.dynamic || c₂.dynamic) := by
  refine ⟨mergeStyles_assoc, fun c q => ?_, fun _ _ _ _ => compose_append_iff⟩
  rw [compose_eq_ok_iff]
  constructor
  · rintro ⟨graphs, layers, hgraphs, hlayers, rfl⟩
    obtain ⟨definition, found, hdefinition, hfound, rfl⟩ := Element.graphs_eq_ok_iff.1 hgraphs
    exact ⟨definition, found, layers, hdefinition, hfound, hlayers, rfl⟩
  · rintro ⟨definition, found, layers, hdefinition, hfound, hlayers, rfl⟩
    exact ⟨_, layers, Element.graphs_eq_ok_iff.2 ⟨definition, found, hdefinition, hfound, rfl⟩,
      hlayers, rfl⟩

end Composition

end DesignGraph
