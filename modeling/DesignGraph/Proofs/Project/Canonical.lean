import DesignGraph.Proofs.Project.Snapshot
/-!
# Loading a written design

Loading settles many things: short kind names are resolved, a zero or missing length becomes the
default, a content of any kind becomes a text, a value that is not filled stands for no ids, no
style and no options. What comes out is in canonical form, and a design in canonical form is
written as a document that loads as the very same design. So loading and writing undo each other
on loaded designs, whatever value they were loaded from.

## Main definitions

* `DesignGraph.Number.IsCanonical`, `DesignGraph.Snapshot.IsCanonicalOptions` — lengths and options
  in the form in which they are loaded.
* `DesignGraph.Element.IsCanonical`, `DesignGraph.Project.IsCanonical` — the same of elements and
  designs.

## Main results

* `DesignGraph.Project.isCanonical_of_ofSnapshot` — what loads is canonical.
* `DesignGraph.Project.ofSnapshot_toSnapshot` — what is canonical is loaded back.
* `DesignGraph.Snapshot.ofSnapshot_written` — loading and writing undo each other.
-/

set_option relaxedAutoImplicit false
set_option autoImplicit false

namespace DesignGraph

/-! ## Numbers -/

/-- A number as it is loaded where zero and null stand for `default`. -/
def Number.IsCanonical (default : Int) (n : Number) : Prop :=
  n = .int default ∨ n.isZero = false

namespace Snapshot

theorem isCanonical_of_numberOr {default : Int} {fields : Fields} {path key : String} {n : Number}
    (h : numberOr default fields path key = .ok n) : n.IsCanonical default := by
  have horDefault : ∀ m : Number,
      (if m.isZero then .int default else m : Number).IsCanonical default := by
    intro m
    by_cases hm : m.isZero
    · exact .inl (if_pos hm)
    · rw [if_neg hm]
      exact .inr (Bool.eq_false_iff.2 hm)
  unfold numberOr at h
  simp only at h
  split at h
  · cases h
    exact .inl rfl
  · cases h
    exact horDefault _
  · cases h
    exact horDefault _
  · cases h
    exact .inr (by decide +kernel)
  · cases h

/-- A number in canonical form is loaded back. -/
theorem numberOr_toValue {default : Int} {fields : Fields} {path key : String} {n : Number}
    (hn : n.IsCanonical default) (h : Fields.get fields key = n.toValue) :
    numberOr default fields path key = .ok n := by
  have hload : numberOr default fields path key =
      .ok (if n.isZero then .int default else n) := by
    cases n <;> simp only [numberOr, h, Number.toValue]
  rw [hload]
  rcases hn with hdefault | hzero
  · rw [hdefault, ite_self]
  · rw [hzero, if_neg Bool.false_ne_true]

/-! ## Options -/

/-- Options as they are loaded: keys that are not all texts are proper keys, and no two of them
address the same entry. -/
def IsCanonicalOptions (table : Table Value) : Prop :=
  optionFields? table = none → table.IsDistinct ∧ ∀ entry ∈ table, entry.1.isKey = true

/-- Options with texts as keys are fields. -/
theorem optionFields?_map (fields : Fields) :
    optionFields? (fields.map fun (k, v) => (.str k, v)) = some fields := by
  induction fields with
  | nil => rfl
  | cons field rest ih => simp only [List.map_cons, optionFields?, ih, Option.map_some]

theorem eq_map_of_optionFields? {table : Table Value} {fields : Fields}
    (h : optionFields? table = some fields) : table = fields.map fun (k, v) => (.str k, v) := by
  induction table generalizing fields with
  | nil =>
    cases h
    rfl
  | cons entry rest ih =>
    obtain ⟨key, v⟩ := entry
    cases key with
    | str k =>
      obtain ⟨more, hmore, rfl⟩ := Option.map_eq_some_iff.1 h
      rw [ih hmore]
      rfl
    | _ => cases h

/-- The steps that read options from pairs keep keys apart and proper. -/
theorem distinct_of_foldlM {vs : List Value} {table after : Table Value}
    (h : vs.foldlM (fun table v => do
      let (key, value) ← pair v
      return table.put (← key.asKey) value) table = .ok after)
    (hdistinct : table.IsDistinct) (hkeys : ∀ entry ∈ table, entry.1.isKey = true) :
    after.IsDistinct ∧ ∀ entry ∈ after, entry.1.isKey = true := by
  induction vs generalizing table with
  | nil =>
    cases h
    exact ⟨hdistinct, hkeys⟩
  | cons v vs ih =>
    rw [List.foldlM_cons] at h
    obtain ⟨next, hnext, h⟩ := bind_eq_ok.1 h
    obtain ⟨⟨key, value⟩, -, hnext⟩ := bind_eq_ok.1 hnext
    obtain ⟨key', hkey, hnext⟩ := bind_eq_ok.1 hnext
    cases hnext
    have hproper : key'.isKey = true := by
      unfold Value.asKey at hkey
      split at hkey
      · cases hkey
        assumption
      · cases hkey
    refine ih h (hdistinct.put key' value) fun entry hentry => ?_
    rcases Table.mem_put hentry with hsame | ⟨b, hb⟩
    · rwa [hsame]
    · exact hkeys (entry.1, b) hb

theorem isCanonical_of_options {v : Value} {table : Table Value} (h : options v = .ok table) :
    IsCanonicalOptions table := by
  have hempty : IsCanonicalOptions [] := fun h => by cases h
  unfold options at h
  split at h
  · cases h
    intro hnone
    cases (optionFields?_map _).symm.trans hnone
  · exact fun _ => distinct_of_foldlM h .nil (by simp)
  · split at h
    · cases h
      exact hempty
    · cases h
  · split at h
    · cases h
    · cases h
      exact hempty

/-- Pairs with keys that are apart from each other, and from those there before, go last. -/
theorem foldlM_pairs (table more : Table Value) (hdistinct : (table ++ more).IsDistinct)
    (hkeys : ∀ entry ∈ more, entry.1.isKey = true) :
    (more.map fun (k, v) => Value.list [k, v]).foldlM (fun table v => do
      let (key, value) ← pair v
      return table.put (← key.asKey) value) table = .ok (table ++ more) := by
  induction more generalizing table with
  | nil => rw [List.append_nil]; rfl
  | cons entry more ih =>
    obtain ⟨k, v⟩ := entry
    have hkey : k.asKey = .ok k := if_pos (hkeys (k, v) List.mem_cons_self)
    have hnew : ∀ entry ∈ table, entry.1.sameKey k = false := by
      intro entry hentry
      exact (List.pairwise_append.1 hdistinct).2.2 entry hentry (k, v) List.mem_cons_self
    have hput : table.put k v = table ++ [(k, v)] := Table.put_of_distinct v hnew
    have hrest := ih (table ++ [(k, v)]) (by simpa using hdistinct)
      fun entry hentry => hkeys entry (List.mem_cons_of_mem _ hentry)
    rw [List.append_assoc, List.singleton_append] at hrest
    rw [List.map_cons, List.foldlM_cons, ← hrest, ← hput]
    simp only [pair, hkey, bind, Except.bind, pure, Except.pure]

/-- Options in canonical form are loaded back. -/
theorem options_ofOptions {table : Table Value} (h : IsCanonicalOptions table) :
    options (ofOptions table) = .ok table := by
  unfold ofOptions
  cases hfields : optionFields? table with
  | some fields =>
    rw [eq_map_of_optionFields? hfields]
    rfl
  | none =>
    obtain ⟨hdistinct, hkeys⟩ := h hfields
    exact foldlM_pairs [] table hdistinct hkeys

end Snapshot

/-! ## Elements -/

/-- An element in the form in which elements are loaded. -/
structure Element.IsCanonical (element : Element) : Prop where
  x : element.x.IsCanonical 0
  y : element.y.IsCanonical 0
  width : element.width.IsCanonical 0
  height : element.height.IsCanonical 0
  ownGraph : ∀ graph ∈ element.ownGraph, graph.IsCanonical
  videoOptions : Snapshot.IsCanonicalOptions element.videoOptions

theorem Element.isCanonical_of_ofSnapshot (path : String) (v : Value) (element : Element)
    (h : Element.ofSnapshot path v = .ok element) : element.IsCanonical := by
  obtain ⟨fields, -, hread⟩ := Element.readFrom_of_ofSnapshot h
  refine ⟨Snapshot.isCanonical_of_numberOr hread.x, Snapshot.isCanonical_of_numberOr hread.y,
    Snapshot.isCanonical_of_numberOr hread.width, Snapshot.isCanonical_of_numberOr hread.height,
    fun graph hgraph => ?_, Snapshot.isCanonical_of_options hread.videoOptions⟩
  have hown := hread.ownGraph
  rw [hgraph] at hown
  exact Graph.isCanonical_of_ofSnapshot _ _ _ (Snapshot.ofSnapshot_of_optionalGraph hown)

/-- What a field that may be left out reads as: null when it was. -/
theorem Element.get?_present (key key' : String) (v : Option Value) :
    Fields.get? (present key v) key' = if key = key' then v else none := by
  cases v with
  | none => exact (ite_self _).symm
  | some v => rfl

/-- A graph in canonical form, which may be absent, is loaded back. -/
theorem Snapshot.optionalGraph_toSnapshot {fields : Fields} {path key : String}
    {graph : Option Graph} (hgraph : ∀ g ∈ graph, g.IsCanonical)
    (h : Fields.get fields key = (graph.map Graph.toSnapshot).getD .null) :
    Snapshot.optionalGraph fields path key = .ok graph := by
  cases graph with
  | none => simp only [optionalGraph, h, Option.map_none, Option.getD_none]
  | some g =>
    have hload := Graph.ofSnapshot_toSnapshot (path ++ "." ++ key) (hgraph g rfl)
    have hread : optionalGraph fields path key =
        (Graph.ofSnapshot (path ++ "." ++ key) g.toSnapshot).map some := by
      rw [optionalGraph, h]
      rfl
    rw [hread, hload]
    rfl

/-- The fields that may be left out of what is written for an element. -/
theorem Element.get_toSnapshot (element : Element) :
    let fields := element.toSnapshot.fields
    Fields.get fields "customComponentId" = .ofText? element.componentId ∧
      Fields.get fields "customNodeGroup" =
        (element.ownGraph.map Graph.toSnapshot).getD .null ∧
      Fields.get fields "src" = .ofText? element.src ∧
      Fields.get fields "alt" = .ofText? element.alt ∧
      Fields.get fields "videoOptions" =
        if element.videoOptions.isEmpty then .null
        else Snapshot.ofOptions element.videoOptions := by
  have htext : ∀ s : Option String, (s.map Value.str).getD .null = .ofText? s := by
    intro s
    cases s <;> rfl
  rcases hempty : element.videoOptions with _ | ⟨entry, rest⟩ <;>
    simp [Element.toSnapshot, Value.fields, Fields.get, Fields.get?_append, get?_present,
      Fields.get?, hempty, htext]

/-- Each part of an element in canonical form is loaded back from what is written for it. -/
theorem Element.readFrom_toSnapshot (path : String) {element : Element} (h : element.IsCanonical) :
    element.ReadFrom path element.toSnapshot.fields := by
  obtain ⟨hcomponent, hown, hsrc, halt, hoptions⟩ := element.get_toSnapshot
  exact {
    scripts := Snapshot.ids_map_str rfl
    style := Snapshot.objectOrEmpty_obj rfl
    overrides := Snapshot.objectOrEmpty_obj rfl
    id := rfl
    kind := rfl
    pageId := Snapshot.optionalText_ofText? rfl
    parentId := Snapshot.optionalText_ofText? rfl
    x := Snapshot.numberOr_toValue h.x rfl
    y := Snapshot.numberOr_toValue h.y rfl
    width := Snapshot.numberOr_toValue h.width rfl
    height := Snapshot.numberOr_toValue h.height rfl
    content := by
      have hget : Fields.get element.toSnapshot.fields "content" = .ofText? element.content := rfl
      rw [hget]
      cases element.content <;> rfl
    componentId := Snapshot.optionalText_ofText? hcomponent
    ownGraph := Snapshot.optionalGraph_toSnapshot h.ownGraph hown
    isDetached := rfl
    src := Snapshot.optionalText_ofText? hsrc
    alt := Snapshot.optionalText_ofText? halt
    videoOptions := by
      rw [hoptions]
      split
      · rename_i hempty
        rw [List.isEmpty_iff.1 hempty]
        rfl
      · exact Snapshot.options_ofOptions h.videoOptions }

/-- An element in canonical form is loaded back. -/
theorem Element.ofSnapshot_toSnapshot (path : String) {element : Element}
    (h : element.IsCanonical) : Element.ofSnapshot path element.toSnapshot = .ok element :=
  (Element.readFrom_toSnapshot path h).ofSnapshot

/-! ## Designs -/

/-- A design in the form in which designs are loaded. -/
structure Project.IsCanonical (project : Project) : Prop where
  width : project.width.IsCanonical 1440
  height : project.height.IsCanonical 900
  positive : (project.width.isAtMostZero || project.height.isAtMostZero) = false
  elements : ∀ element ∈ project.elements, element.IsCanonical
  pages : ∀ page ∈ project.pages, page.IsCanonical
  components : ∀ graph ∈ project.components, graph.IsCanonical
  scripts : ∀ graph ∈ project.scripts, graph.IsCanonical

/-- What is loaded under a key has what every loaded item has. -/
theorem Snapshot.forall_mem_of_list {α : Type} {read : String → Value → Except Fault α}
    {fields : Fields} {key : String} {as : List α} {Q : α → Prop}
    (hread : ∀ path v a, read path v = .ok a → Q a) (h : list read fields key = .ok as) :
    ∀ a ∈ as, Q a :=
  of_list (P := fun _ => True) (fun path v a _ => hread path v a) (fun _ _ _ _ => trivial) h

/-- **What loads is canonical**, whatever value it was loaded from. -/
theorem Project.isCanonical_of_ofSnapshot {v : Value} {project : Project}
    (h : Project.ofSnapshot v = .ok project) : project.IsCanonical := by
  obtain ⟨fields, -, hread⟩ := Project.readFrom_of_ofSnapshot h
  exact {
    width := Snapshot.isCanonical_of_numberOr hread.width
    height := Snapshot.isCanonical_of_numberOr hread.height
    positive := hread.positive
    elements := Snapshot.forall_mem_of_list Element.isCanonical_of_ofSnapshot hread.elements
    pages := Snapshot.forall_mem_of_list Page.isCanonical_of_ofSnapshot hread.pages
    components := Snapshot.forall_mem_of_list Graph.isCanonical_of_ofSnapshot hread.components
    scripts := Snapshot.forall_mem_of_list Graph.isCanonical_of_ofSnapshot hread.scripts }

/-- **What is canonical is loaded back** from what is written for it. -/
theorem Project.ofSnapshot_toSnapshot {project : Project} (h : project.IsCanonical) :
    Project.ofSnapshot project.toSnapshot = .ok project := by
  have hread : project.ReadFrom project.toSnapshot.fields := {
    lists := by
      intro key hkey
      simp only [List.mem_cons, List.not_mem_nil, or_false] at hkey
      rcases hkey with rfl | rfl | rfl | rfl <;> rfl
    width := Snapshot.numberOr_toValue h.width rfl
    height := Snapshot.numberOr_toValue h.height rfl
    positive := h.positive
    elements := Snapshot.items_map_self "elements" 0 fun path element helement =>
      Element.ofSnapshot_toSnapshot path (h.elements element helement)
    pages := Snapshot.items_map_self "pages" 0 fun path page hpage =>
      Page.ofSnapshot_toSnapshot path (h.pages page hpage)
    components := Snapshot.items_map_self "components" 0 fun path graph hgraph =>
      Graph.ofSnapshot_toSnapshot path (h.components graph hgraph)
    scripts := Snapshot.items_map_self "scripts" 0 fun path graph hgraph =>
      Graph.ofSnapshot_toSnapshot path (h.scripts graph hgraph) }
  exact hread.ofSnapshot

/-- **Loading and writing undo each other.** A design that was loaded, from any value, is written
as a document that loads as the very same design: every element, page, component and script with
its inner graphs, the data of its nodes, ids and names of any kind, and the order of lists and
keys. So whatever that document loads as is written as the document again. The same holds of a
graph, wherever it is loaded. -/
theorem Snapshot.ofSnapshot_written :
    (∀ (raw : Value) (project : Project), Project.ofSnapshot raw = .ok project →
      Project.ofSnapshot project.toSnapshot = .ok project ∧
        ∀ again, Project.ofSnapshot project.toSnapshot = .ok again →
          again.toSnapshot = project.toSnapshot) ∧
    ∀ (path path' : String) (raw : Value) (graph : Graph), Graph.ofSnapshot path raw = .ok graph →
      Graph.ofSnapshot path' graph.toSnapshot = .ok graph ∧
        ∀ again, Graph.ofSnapshot path' graph.toSnapshot = .ok again →
          again.toSnapshot = graph.toSnapshot := by
  constructor
  · intro raw project hload
    have hback := Project.ofSnapshot_toSnapshot (Project.isCanonical_of_ofSnapshot hload)
    refine ⟨hback, fun again hagain => ?_⟩
    cases hback.symm.trans hagain
    rfl
  · intro path path' raw graph hload
    have hback := Graph.ofSnapshot_toSnapshot path' (Graph.isCanonical_of_ofSnapshot _ _ _ hload)
    refine ⟨hback, fun again hagain => ?_⟩
    cases hback.symm.trans hagain
    rfl

/-- The own graph of a tile as it is handed in, with a short kind name and a name that is no text. -/
def rawTileGraph : Value :=
  .obj [("nodes", .list [.obj [("type", .str "HOVER"), ("id", .str "pointer"), ("data", .null)]]),
    ("name", .bool true)]

/-- The own graph of the tile, loaded. -/
def tileGraph : Graph where
  nodes := [⟨"pointer", "INTERACTION_HOVER", []⟩]
  connections := []
  id := .null
  name := .bool true

/-- A tile as it is handed in: zero and NaN for lengths, a number for a content, an empty list for
a style, pairs for options, two of them under keys that are equal. -/
def rawTile : Value :=
  .obj [("width", .float 0), ("pages", .list [.obj [("name", .int 0), ("id", .str "home")]]),
    ("elements", .list [.obj [("type", .str "CUSTOM"), ("id", .str "tile"), ("x", .float 0),
      ("width", .nan 3), ("content", .int 5), ("style", .list []), ("scripts", .str ""),
      ("isDetached", .int 2), ("customNodeGroup", rawTileGraph),
      ("videoOptions", .list [.list [.int 1, .str "first"], .str "ab", .list [.bool true, .null]])]])]

/-- The tile, loaded. -/
def tile : Project where
  elements := [{
    id := "tile", kind := "CUSTOM", pageId := none, parentId := none, x := .int 0, y := .int 0
    width := .float Double.nan, height := .int 0, style := [], content := "5"
    componentId := none, ownGraph := tileGraph, isDetached := true, scripts := [], overrides := []
    src := none, alt := none, videoOptions := [(.int 1, .null), (.str "a", .str "b")] }]
  pages := [⟨"home", .str ""⟩]
  width := .int 1440
  height := .int 900
  components := []
  scripts := []

theorem tile_loads_back :
    Project.ofSnapshot rawTile = .ok tile ∧ Graph.ofSnapshot "graph" rawTileGraph = .ok tileGraph ∧
      (Project.ofSnapshot tile.toSnapshot = .ok tile ∧
        ∀ again, Project.ofSnapshot tile.toSnapshot = .ok again →
          again.toSnapshot = tile.toSnapshot) ∧
      Graph.ofSnapshot "graph" tileGraph.toSnapshot = .ok tileGraph ∧
        ∀ again, Graph.ofSnapshot "graph" tileGraph.toSnapshot = .ok again →
          again.toSnapshot = tileGraph.toSnapshot := by
  have htile : Project.ofSnapshot rawTile = .ok tile := by decide +kernel
  have hgraph : Graph.ofSnapshot "graph" rawTileGraph = .ok tileGraph := by decide +kernel
  exact ⟨htile, hgraph, Snapshot.ofSnapshot_written.1 rawTile tile htile,
    Snapshot.ofSnapshot_written.2 "graph" "graph" rawTileGraph tileGraph hgraph⟩

end DesignGraph
