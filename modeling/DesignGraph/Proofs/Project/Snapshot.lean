import DesignGraph.Project.Snapshot
import DesignGraph.Proofs.Json.RoundTrip
import DesignGraph.Proofs.Outcome
/-!
# Loaded designs

What loading a design from a JSON document guarantees, and that graphs and pages are written in a
form that loads as the same graph or page.

## Main definitions

* `DesignGraph.Element.ReadFrom`, `DesignGraph.Project.ReadFrom` — how each part of an element or
  of a design follows from the fields it is read from.
* `DesignGraph.Node.IsLoaded`, `DesignGraph.Graph.IsLoaded`, `DesignGraph.Page.IsLoaded`,
  `DesignGraph.Element.IsLoaded` — what has been loaded from a JSON document.
* `DesignGraph.Project.IsLoaded` — the same of a whole design.
* `DesignGraph.Graph.IsCanonical`, `DesignGraph.Page.IsCanonical` — graphs and pages in the form
  in which they are loaded from any value.

## Main results

* `DesignGraph.Project.isLoaded_of_ofSnapshot` — a design that loads from a JSON document is such
  a design.
* `DesignGraph.Element.readFrom_of_ofSnapshot`, `DesignGraph.Element.ReadFrom.ofSnapshot` — an
  element loads exactly when each of its parts does; likewise for designs.
* `DesignGraph.Graph.ofSnapshot_toSnapshot`, `DesignGraph.Page.ofSnapshot_toSnapshot` — writing a
  loaded graph or page and loading it again gives it back.
-/

set_option relaxedAutoImplicit false
set_option autoImplicit false

namespace DesignGraph

/-! ## Fields -/

/-- A field of a JSON object is a value of a JSON document; null stands for a missing one. -/
theorem Value.IsJson.get {fields : Fields} (h : (Value.obj fields).IsJson) (key : String) :
    (Fields.get fields key).IsJson := by
  cases h with | obj distinct values =>
  clear distinct
  unfold Fields.get
  induction fields with
  | nil => exact .null
  | cons field rest ih =>
    obtain ⟨k, v⟩ := field
    by_cases hk : k = key
    · simpa [Fields.get?, hk] using values (k, v) List.mem_cons_self
    · simpa [Fields.get?, hk] using ih fun f hf => values f (List.mem_cons_of_mem _ hf)

theorem Value.IsJson.get? {fields : Fields} (h : (Value.obj fields).IsJson) {key : String}
    {v : Value} (hv : Fields.get? fields key = some v) : v.IsJson := by
  have := h.get key
  rwa [Fields.get, hv] at this

namespace Snapshot

/-! ## Lists of items -/

/-- Items are loaded one by one, each at its place. -/
theorem of_items {α : Type} {read : String → Value → Except Fault α} {path : String} {i : Nat}
    {vs : List Value} {as : List α} {P : Value → Prop} {Q : α → Prop}
    (hread : ∀ path v a, P v → read path v = .ok a → Q a) (hvs : ∀ v ∈ vs, P v)
    (h : items read path i vs = .ok as) : ∀ a ∈ as, Q a := by
  induction vs generalizing i as with
  | nil =>
    cases h
    simp
  | cons v vs ih =>
    obtain ⟨a, ha, h⟩ := bind_eq_ok.1 h
    obtain ⟨more, hmore, h⟩ := bind_eq_ok.1 h
    cases h
    exact List.forall_mem_cons.2 ⟨hread _ v a (hvs v List.mem_cons_self) ha,
      ih (fun w hw => hvs w (List.mem_cons_of_mem _ hw)) hmore⟩

/-- Items that are loaded from what was written for them are loaded back. -/
theorem items_map {α : Type} {read : String → Value → Except Fault α} {write : α → Value}
    {as : List α} {f : α → α} (path : String) (i : Nat)
    (h : ∀ path, ∀ a ∈ as, read path (write a) = .ok (f a)) :
    items read path i (as.map write) = .ok (as.map f) := by
  induction as generalizing i with
  | nil => rfl
  | cons a as ih =>
    rw [List.map_cons, items, h _ a List.mem_cons_self,
      ih (i + 1) fun path b hb => h path b (List.mem_cons_of_mem _ hb)]
    rfl

/-- Items that are loaded back as themselves. -/
theorem items_map_self {α : Type} {read : String → Value → Except Fault α} {write : α → Value}
    {as : List α} (path : String) (i : Nat)
    (h : ∀ path, ∀ a ∈ as, read path (write a) = .ok a) :
    items read path i (as.map write) = .ok as := by
  have hmap := items_map (f := fun a => a) path i h
  rwa [List.map_id'] at hmap

/-- The fields of a JSON object. -/
theorem isJson_of_object {path : String} {v : Value} {fields : Fields} (hv : v.IsJson)
    (h : object path v = .ok fields) : (Value.obj fields).IsJson := by
  cases v <;> cases h
  exact hv

/-- The items of a list of a JSON object. -/
theorem isJson_of_listOrEmpty {fields : Fields} {path key reason : String} {vs : List Value}
    (hf : (Value.obj fields).IsJson) (h : listOrEmpty fields path key reason = .ok vs) :
    ∀ v ∈ vs, v.IsJson := by
  unfold listOrEmpty at h
  split at h
  · cases h
    simp
  · rename_i hget
    cases h
    cases hf.get? hget with | list items => exact items
  · cases h

/-- The object under a key of a JSON object. -/
theorem isJson_of_objectOrEmpty {fields inner : Fields} {path key reason : String}
    (hf : (Value.obj fields).IsJson) (h : objectOrEmpty fields path key reason = .ok inner) :
    (Value.obj inner).IsJson := by
  have hv := hf.get key
  unfold objectOrEmpty at h
  simp only at h
  split at h
  · split at h
    · rename_i heq
      cases h
      rwa [heq] at hv
    · cases h
  · cases h
    exact .obj List.nodup_nil (by simp)

/-- The list under a key, item by item. -/
theorem of_list {α : Type} {read : String → Value → Except Fault α} {fields : Fields}
    {key : String} {as : List α} {P : Value → Prop} {Q : α → Prop}
    (hread : ∀ path v a, P v → read path v = .ok a → Q a)
    (hvs : ∀ vs, Fields.get? fields key = some (.list vs) → ∀ v ∈ vs, P v)
    (h : list read fields key = .ok as) : ∀ a ∈ as, Q a := by
  unfold list at h
  split at h
  · rename_i vs hget
    exact of_items hread (hvs vs hget) h
  · cases h
    simp

/-- The items of a list under a key of a JSON object. -/
theorem isJson_of_get? {fields : Fields} {key : String} (hf : (Value.obj fields).IsJson)
    (vs : List Value) (hget : Fields.get? fields key = some (.list vs)) : ∀ v ∈ vs, v.IsJson := by
  cases hf.get? hget with | list items => exact items

/-! ## What stands under a key -/

/-- The ids of a list of texts. -/
theorem ids_map_str {fields : Fields} {path key : String} {scripts : List String}
    (h : Fields.get fields key = .list (scripts.map .str)) :
    ids fields path key = .ok scripts := by
  simp only [ids, h]
  clear h
  induction scripts with
  | nil => rfl
  | cons id scripts ih =>
    rw [List.map_cons, List.mapM_cons, ih]
    rfl

/-- A text that may be absent. -/
theorem optionalText_ofText? {fields : Fields} {path key : String} {s : Option String}
    (h : Fields.get fields key = .ofText? s) : optionalText fields path key = .ok s := by
  cases s <;> simp only [optionalText, h, Value.ofText?]

/-- An object, which may be empty. -/
theorem objectOrEmpty_obj {fields inner : Fields} {path key reason : String}
    (h : Fields.get fields key = .obj inner) :
    objectOrEmpty fields path key reason = .ok inner := by
  cases inner <;> simp [objectOrEmpty, h, Value.isFilled]

end Snapshot

/-! ## The parts of what is read -/

/-- A graph that was read under a key. -/
theorem Snapshot.ofSnapshot_of_optionalGraph {fields : Fields} {path key : String} {graph : Graph}
    (h : Snapshot.optionalGraph fields path key = .ok (some graph)) :
    Graph.ofSnapshot (path ++ "." ++ key) (Fields.get fields key) = .ok graph := by
  unfold Snapshot.optionalGraph at h
  split at h
  · cases h
  · cases hread : Graph.ofSnapshot (path ++ "." ++ key) (Fields.get fields key) with
    | error fault =>
      rw [hread] at h
      cases h
    | ok graph =>
      rw [hread] at h
      cases h
      rfl

/-- How each part of an element follows from the fields at `path`. -/
structure Element.ReadFrom (path : String) (fields : Fields) (element : Element) : Prop where
  scripts : Snapshot.ids fields path "scripts" = .ok element.scripts
  style : Snapshot.objectOrEmpty fields path "style" "style must be an object" = .ok element.style
  overrides : Snapshot.objectOrEmpty fields path "propOverrides" "propOverrides must be an object" =
    .ok element.overrides
  id : Snapshot.requiredText fields path "id" = .ok element.id
  kind : Snapshot.requiredText fields path "type" = .ok element.kind
  pageId : Snapshot.optionalText fields path "pageId" = .ok element.pageId
  parentId : Snapshot.optionalText fields path "parentId" = .ok element.parentId
  x : Snapshot.numberOr 0 fields path "x" = .ok element.x
  y : Snapshot.numberOr 0 fields path "y" = .ok element.y
  width : Snapshot.numberOr 0 fields path "width" = .ok element.width
  height : Snapshot.numberOr 0 fields path "height" = .ok element.height
  content : (match Fields.get fields "content" with
    | .null => none
    | v => some v.display) = element.content
  componentId : Snapshot.optionalText fields path "customComponentId" = .ok element.componentId
  ownGraph : Snapshot.optionalGraph fields path "customNodeGroup" = .ok element.ownGraph
  isDetached : (Fields.get fields "isDetached").isFilled = element.isDetached
  src : Snapshot.optionalText fields path "src" = .ok element.src
  alt : Snapshot.optionalText fields path "alt" = .ok element.alt
  videoOptions : Snapshot.options (Fields.get fields "videoOptions") = .ok element.videoOptions

/-- An element is read part by part. -/
theorem Element.readFrom_of_ofSnapshot {path : String} {v : Value} {element : Element}
    (h : Element.ofSnapshot path v = .ok element) :
    ∃ fields, v = .obj fields ∧ element.ReadFrom path fields := by
  obtain ⟨fields, hfields, h⟩ := bind_eq_ok.1 h
  obtain ⟨scripts, hscripts, h⟩ := bind_eq_ok.1 h
  obtain ⟨style, hstyle, h⟩ := bind_eq_ok.1 h
  obtain ⟨overrides, hoverrides, h⟩ := bind_eq_ok.1 h
  obtain ⟨id, hid, h⟩ := bind_eq_ok.1 h
  obtain ⟨kind, hkind, h⟩ := bind_eq_ok.1 h
  obtain ⟨pageId, hpage, h⟩ := bind_eq_ok.1 h
  obtain ⟨parentId, hparent, h⟩ := bind_eq_ok.1 h
  obtain ⟨x, hx, h⟩ := bind_eq_ok.1 h
  obtain ⟨y, hy, h⟩ := bind_eq_ok.1 h
  obtain ⟨width, hwidth, h⟩ := bind_eq_ok.1 h
  obtain ⟨height, hheight, h⟩ := bind_eq_ok.1 h
  obtain ⟨componentId, hcomponent, h⟩ := bind_eq_ok.1 h
  obtain ⟨ownGraph, hown, h⟩ := bind_eq_ok.1 h
  obtain ⟨src, hsrc, h⟩ := bind_eq_ok.1 h
  obtain ⟨alt, halt, h⟩ := bind_eq_ok.1 h
  obtain ⟨options, hoptions, h⟩ := bind_eq_ok.1 h
  cases h
  cases v <;> cases hfields
  exact ⟨_, rfl, hscripts, hstyle, hoverrides, hid, hkind, hpage, hparent, hx, hy, hwidth, hheight,
    rfl, hcomponent, hown, rfl, hsrc, halt, hoptions⟩

/-- When each part can be read, so can the element. -/
theorem Element.ReadFrom.ofSnapshot {path : String} {fields : Fields} {element : Element}
    (h : element.ReadFrom path fields) : Element.ofSnapshot path (.obj fields) = .ok element := by
  simp only [Element.ofSnapshot, Snapshot.object, h.scripts, h.style, h.overrides, h.id, h.kind,
    h.pageId, h.parentId, h.x, h.y, h.width, h.height, h.componentId, h.ownGraph, h.src, h.alt,
    h.videoOptions, h.isDetached, bind, Except.bind, pure, Except.pure]
  exact congrArg (fun content => Except.ok { element with content }) h.content

/-- How each part of a design follows from its fields. -/
structure Project.ReadFrom (fields : Fields) (project : Project) : Prop where
  lists : ∀ key ∈ ["elements", "pages", "components", "scripts"],
    Snapshot.checkList fields key = .ok ()
  width : Snapshot.numberOr 1440 fields "project" "width" = .ok project.width
  height : Snapshot.numberOr 900 fields "project" "height" = .ok project.height
  positive : (project.width.isAtMostZero || project.height.isAtMostZero) = false
  elements : Snapshot.list Element.ofSnapshot fields "elements" = .ok project.elements
  pages : Snapshot.list Page.ofSnapshot fields "pages" = .ok project.pages
  components : Snapshot.list Graph.ofSnapshot fields "components" = .ok project.components
  scripts : Snapshot.list Graph.ofSnapshot fields "scripts" = .ok project.scripts

/-- A design is read part by part. -/
theorem Project.readFrom_of_ofSnapshot {v : Value} {project : Project}
    (h : Project.ofSnapshot v = .ok project) : ∃ fields, v = .obj fields ∧ project.ReadFrom fields := by
  obtain ⟨fields, hfields, h⟩ := bind_eq_ok.1 h
  obtain ⟨⟨⟩, helementList, h⟩ := bind_eq_ok.1 h
  obtain ⟨⟨⟩, hpageList, h⟩ := bind_eq_ok.1 h
  obtain ⟨⟨⟩, hcomponentList, h⟩ := bind_eq_ok.1 h
  obtain ⟨⟨⟩, hscriptList, h⟩ := bind_eq_ok.1 h
  obtain ⟨width, hwidth, h⟩ := bind_eq_ok.1 h
  obtain ⟨height, hheight, h⟩ := bind_eq_ok.1 h
  split at h
  · cases h
  rename_i hpositive
  obtain ⟨elements, helements, h⟩ := bind_eq_ok.1 h
  obtain ⟨pages, hpages, h⟩ := bind_eq_ok.1 h
  obtain ⟨components, hcomponents, h⟩ := bind_eq_ok.1 h
  obtain ⟨scripts, hscripts, h⟩ := bind_eq_ok.1 h
  cases h
  cases v <;> cases hfields
  exact ⟨_, rfl, by simp [helementList, hpageList, hcomponentList, hscriptList], hwidth, hheight,
    Bool.eq_false_iff.2 hpositive, helements, hpages, hcomponents, hscripts⟩

/-- When each part can be read, so can the design. -/
theorem Project.ReadFrom.ofSnapshot {fields : Fields} {project : Project}
    (h : project.ReadFrom fields) : Project.ofSnapshot (.obj fields) = .ok project := by
  have hlists := h.lists
  simp only [List.forall_mem_cons] at hlists
  obtain ⟨helements, hpages, hcomponents, hscripts, -⟩ := hlists
  simp only [Project.ofSnapshot, Snapshot.object, helements, hpages, hcomponents, hscripts, h.width,
    h.height, h.positive, h.elements, h.pages, h.components, h.scripts, bind, Except.bind, pure,
    Except.pure, Bool.false_eq_true, if_false]

/-! ## What has been loaded -/

/-- A node that was loaded from a JSON document: its kind has its full name. -/
structure Node.IsLoaded (node : Node) : Prop where
  kind : Catalog.canonicalName node.kind = node.kind
  data : (Value.obj node.data).IsJson

/-- A graph that was loaded from a JSON document. -/
structure Graph.IsLoaded (graph : Graph) : Prop where
  nodes : ∀ node ∈ graph.nodes, node.IsLoaded
  id : graph.id.IsJson
  name : graph.name.IsJson

/-- A page that was loaded from a JSON document: a name that is not filled is the empty one. -/
structure Page.IsLoaded (page : Page) : Prop where
  name : page.name.IsJson
  filled : page.name.isFilled = true ∨ page.name = .str ""

/-- An element that was loaded from a JSON document, as far as graphs see it. -/
structure Element.IsLoaded (element : Element) : Prop where
  ownGraph : ∀ graph ∈ element.ownGraph, graph.IsLoaded
  overrides : (Value.obj element.overrides).IsJson

/-- A design that was loaded from a JSON document. -/
structure Project.IsLoaded (project : Project) : Prop where
  elements : ∀ element ∈ project.elements, element.IsLoaded
  pages : ∀ page ∈ project.pages, page.IsLoaded
  components : ∀ graph ∈ project.components, graph.IsLoaded
  scripts : ∀ graph ∈ project.scripts, graph.IsLoaded

theorem Node.isLoaded_of_ofSnapshot (path : String) (v : Value) (node : Node) (hv : v.IsJson)
    (h : Node.ofSnapshot path v = .ok node) : node.IsLoaded := by
  obtain ⟨fields, hfields, h⟩ := bind_eq_ok.1 h
  obtain ⟨id, -, h⟩ := bind_eq_ok.1 h
  obtain ⟨kind, -, h⟩ := bind_eq_ok.1 h
  obtain ⟨data, hdata, h⟩ := bind_eq_ok.1 h
  cases h
  exact ⟨Catalog.canonicalName_canonicalName kind,
    Snapshot.isJson_of_objectOrEmpty (Snapshot.isJson_of_object hv hfields) hdata⟩

theorem Graph.isLoaded_of_ofSnapshot (path : String) (v : Value) (graph : Graph) (hv : v.IsJson)
    (h : Graph.ofSnapshot path v = .ok graph) : graph.IsLoaded := by
  obtain ⟨fields, hfields, h⟩ := bind_eq_ok.1 h
  obtain ⟨nodes, hnodes, h⟩ := bind_eq_ok.1 h
  obtain ⟨connections, -, h⟩ := bind_eq_ok.1 h
  obtain ⟨loaded, hloaded, h⟩ := bind_eq_ok.1 h
  obtain ⟨wires, -, h⟩ := bind_eq_ok.1 h
  cases h
  have hf := Snapshot.isJson_of_object hv hfields
  exact ⟨Snapshot.of_items Node.isLoaded_of_ofSnapshot
    (Snapshot.isJson_of_listOrEmpty hf hnodes) hloaded, hf.get _, hf.get _⟩

theorem Page.isLoaded_of_ofSnapshot (path : String) (v : Value) (page : Page) (hv : v.IsJson)
    (h : Page.ofSnapshot path v = .ok page) : page.IsLoaded := by
  obtain ⟨fields, hfields, h⟩ := bind_eq_ok.1 h
  obtain ⟨id, -, h⟩ := bind_eq_ok.1 h
  cases h
  have hname := (Snapshot.isJson_of_object hv hfields).get "name"
  split
  · exact ⟨hname, .inl ‹_›⟩
  · exact ⟨.str "", .inr rfl⟩

theorem Element.isLoaded_of_ofSnapshot (path : String) (v : Value) (element : Element)
    (hv : v.IsJson) (h : Element.ofSnapshot path v = .ok element) : element.IsLoaded := by
  obtain ⟨fields, rfl, hread⟩ := Element.readFrom_of_ofSnapshot h
  refine ⟨fun graph hgraph => ?_, Snapshot.isJson_of_objectOrEmpty hv hread.overrides⟩
  have hown := hread.ownGraph
  rw [hgraph] at hown
  exact Graph.isLoaded_of_ofSnapshot _ _ _ (hv.get _) (Snapshot.ofSnapshot_of_optionalGraph hown)

theorem Project.isLoaded_of_ofSnapshot {v : Value} {project : Project} (hv : v.IsJson)
    (h : Project.ofSnapshot v = .ok project) : project.IsLoaded := by
  obtain ⟨fields, rfl, hread⟩ := Project.readFrom_of_ofSnapshot h
  exact ⟨Snapshot.of_list Element.isLoaded_of_ofSnapshot (Snapshot.isJson_of_get? hv) hread.elements,
    Snapshot.of_list Page.isLoaded_of_ofSnapshot (Snapshot.isJson_of_get? hv) hread.pages,
    Snapshot.of_list Graph.isLoaded_of_ofSnapshot (Snapshot.isJson_of_get? hv) hread.components,
    Snapshot.of_list Graph.isLoaded_of_ofSnapshot (Snapshot.isJson_of_get? hv) hread.scripts⟩

/-! ## Loading what was written -/

/-- A node in the form in which nodes are loaded: its kind has its full name. -/
def Node.IsCanonical (node : Node) : Prop :=
  Catalog.canonicalName node.kind = node.kind

/-- A graph in the form in which graphs are loaded. -/
def Graph.IsCanonical (graph : Graph) : Prop :=
  ∀ node ∈ graph.nodes, node.IsCanonical

/-- A page in the form in which pages are loaded: a name that is not filled is the empty one. -/
def Page.IsCanonical (page : Page) : Prop :=
  page.name.isFilled = true ∨ page.name = .str ""

theorem Node.isCanonical_of_ofSnapshot (path : String) (v : Value) (node : Node)
    (h : Node.ofSnapshot path v = .ok node) : node.IsCanonical := by
  obtain ⟨fields, -, h⟩ := bind_eq_ok.1 h
  obtain ⟨id, -, h⟩ := bind_eq_ok.1 h
  obtain ⟨kind, -, h⟩ := bind_eq_ok.1 h
  obtain ⟨data, -, h⟩ := bind_eq_ok.1 h
  cases h
  exact Catalog.canonicalName_canonicalName kind

theorem Graph.isCanonical_of_ofSnapshot (path : String) (v : Value) (graph : Graph)
    (h : Graph.ofSnapshot path v = .ok graph) : graph.IsCanonical := by
  obtain ⟨fields, -, h⟩ := bind_eq_ok.1 h
  obtain ⟨nodes, -, h⟩ := bind_eq_ok.1 h
  obtain ⟨connections, -, h⟩ := bind_eq_ok.1 h
  obtain ⟨loaded, hloaded, h⟩ := bind_eq_ok.1 h
  obtain ⟨wires, -, h⟩ := bind_eq_ok.1 h
  cases h
  exact Snapshot.of_items (P := fun _ => True)
    (fun path v node _ => Node.isCanonical_of_ofSnapshot path v node) (fun _ _ => trivial) hloaded

theorem Page.isCanonical_of_ofSnapshot (path : String) (v : Value) (page : Page)
    (h : Page.ofSnapshot path v = .ok page) : page.IsCanonical := by
  obtain ⟨fields, -, h⟩ := bind_eq_ok.1 h
  obtain ⟨id, -, h⟩ := bind_eq_ok.1 h
  cases h
  unfold Page.IsCanonical
  simp only
  split
  · exact .inl ‹_›
  · exact .inr rfl

/-- A node is loaded back. -/
theorem Node.ofSnapshot_toSnapshot (path : String) {node : Node} (h : node.IsCanonical) :
    Node.ofSnapshot path node.toSnapshot = .ok node := by
  obtain ⟨id, kind, data⟩ := node
  have hload : Node.ofSnapshot path (Node.toSnapshot ⟨id, kind, data⟩) =
      .ok ⟨id, Catalog.canonicalName kind, data⟩ := by
    cases data <;> rfl
  have hkind : Catalog.canonicalName kind = kind := h
  rw [hload, hkind]

/-- A connection is loaded back. -/
theorem Connection.ofSnapshot_toSnapshot (path : String) (connection : Connection) :
    Connection.ofSnapshot path connection.toSnapshot = .ok connection :=
  rfl

/-- A graph is loaded back. -/
theorem Graph.ofSnapshot_toSnapshot (path : String) {graph : Graph} (h : graph.IsCanonical) :
    Graph.ofSnapshot path graph.toSnapshot = .ok graph := by
  obtain ⟨nodes, connections, id, name⟩ := graph
  have hnodes (path : String) : Snapshot.items Node.ofSnapshot path 0 (nodes.map Node.toSnapshot) =
      .ok nodes :=
    Snapshot.items_map_self path 0 fun path node hnode =>
      Node.ofSnapshot_toSnapshot path (h node hnode)
  have hconnections (path : String) :
      Snapshot.items Connection.ofSnapshot path 0 (connections.map Connection.toSnapshot) =
        .ok connections :=
    Snapshot.items_map_self path 0 fun path c _ => Connection.ofSnapshot_toSnapshot path c
  have hload : Graph.ofSnapshot path (Graph.toSnapshot ⟨nodes, connections, id, name⟩) = do
      let nodes ← Snapshot.items Node.ofSnapshot (path ++ ".nodes") 0 (nodes.map Node.toSnapshot)
      let connections ← Snapshot.items Connection.ofSnapshot (path ++ ".connections") 0
        (connections.map Connection.toSnapshot)
      return ⟨nodes, connections, id, name⟩ := by
    cases id <;> cases name <;> rfl
  rw [hload, hnodes, hconnections]
  rfl

/-- A page is loaded back. -/
theorem Page.ofSnapshot_toSnapshot (path : String) {page : Page} (h : page.IsCanonical) :
    Page.ofSnapshot path page.toSnapshot = .ok page := by
  obtain ⟨id, name⟩ := page
  have hload : Page.ofSnapshot path (Page.toSnapshot ⟨id, name⟩) =
    .ok ⟨id, if name.isFilled then name else .str ""⟩ := rfl
  rw [hload]
  rcases h with hfilled | hempty
  · rw [if_pos hfilled]
  · simp only at hempty
    rw [hempty, ite_self]

/-! ## What is written is JSON -/

end DesignGraph
