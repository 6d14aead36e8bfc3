import DesignGraph.Proofs.Graph.Validation
import Mathlib.Algebra.BigOperators.Group.List.Basic
import Mathlib.Algebra.GroupWithZero.Nat
import Mathlib.Data.List.Induction
import Mathlib.Data.List.Nodup
/-!
# The structure of a graph, drawn

Nothing of a graph is lost in its structure and nothing is made up: there is one vertex for every
id, labelled by the first node that has it, and every connection between existing nodes leaves its
socket on the one link between its ends. The structure is also what comes of drawing the nodes and
connections one by one, each where it belongs in what is already drawn.

## Main definitions

* `DesignGraph.Issue.dangling?` — the connection that a problem reports as dangling.
* `DesignGraph.Drawing`, `DesignGraph.Drawing.ofGraph` — nodes and connections drawn one by one.
* `DesignGraph.Graph.Depicts` — labels and links that lose nothing of a graph and invent nothing.

## Main results

* `DesignGraph.Drawing.addConnection_rows` — what drawing one more connection changes.
* `DesignGraph.Drawing.ofGraph_eq` — the drawing of a graph is its structure.
* `DesignGraph.Graph.depicts_structure` — labels and links depict the graph.
* `DesignGraph.Graph.structure_keeps_graph` — the same, with the number of sockets.
-/

set_option relaxedAutoImplicit false
set_option autoImplicit false

namespace DesignGraph

/-- The connection that a problem reports as dangling. -/
def Issue.dangling? : Issue → Option Connection
  | .danglingConnection connection _ => some connection
  | _ => none

/-! ## First members -/

section Distinct

variable {α : Type} {name : α → String} {l : List α}

/-- One more member of a list is kept if its name is new. -/
lemma distinctBy_concat (l : List α) (a : α) :
    distinctBy name (l ++ [a]) =
      if name a ∈ l.map name then distinctBy name l else distinctBy name l ++ [a] := by
  induction l with
  | nil => simp [distinctBy]
  | cons b rest ih =>
    rw [List.cons_append, distinctBy, ih, distinctBy, List.map_cons]
    by_cases hrest : name a ∈ rest.map name
    · rw [if_pos hrest, if_pos (List.mem_cons_of_mem _ hrest)]
    · by_cases hab : name a = name b
      · rw [if_neg hrest, if_pos (by simp [hab]), List.filter_append]
        simp [hab]
      · rw [if_neg hrest, if_neg (by simpa [hab] using hrest), List.filter_append]
        simp [hab]

/-- The members that are kept stand in order of first appearance. -/
lemma pairwise_distinctBy :
    ((distinctBy name l).map name).Pairwise fun x y =>
      (l.map name).idxOf x < (l.map name).idxOf y := by
  induction l with
  | nil => exact .nil
  | cons a rest ih =>
    have hlater {x : String} (hx : x ≠ name a) :
        ((a :: rest).map name).idxOf x = (rest.map name).idxOf x + 1 :=
      List.idxOf_cons_ne _ (Ne.symm hx)
    have hne {x : String} (hx : x ∈ ((distinctBy name rest).filter (name · != name a)).map name) :
        x ≠ name a := by
      obtain ⟨b, hb, rfl⟩ := List.mem_map.1 hx
      exact bne_iff_ne.1 (List.mem_filter.1 hb).2
    rw [distinctBy]
    refine List.pairwise_cons.2 ⟨?_, ?_⟩
    · intro x hx
      rw [hlater (hne hx), List.map_cons, List.idxOf_cons_self]
      exact Nat.succ_pos _
    · have hsub : (((distinctBy name rest).filter (name · != name a)).map name).Sublist
          ((distinctBy name rest).map name) := List.filter_sublist.map name
      refine (ih.sublist hsub).imp_of_mem fun hx hy hlt => ?_
      rw [hlater (hne hx), hlater (hne hy)]
      exact Nat.succ_lt_succ hlt

/-- The names of the members that are kept are distinct. -/
lemma nodup_map_distinctBy : ((distinctBy name l).map name).Nodup :=
  pairwise_distinctBy.imp fun hlt heq => by simp [heq] at hlt

/-- A member is kept exactly if it is the first one with its name. -/
lemma mem_distinctBy_iff {a : α} :
    a ∈ distinctBy name l ↔ l.find? (name · == name a) = some a := by
  induction l with
  | nil => simp [distinctBy]
  | cons b rest ih =>
    rw [distinctBy, List.mem_cons, List.mem_filter, ih, List.find?_cons]
    by_cases hab : name b = name a
    · simp [hab, eq_comm]
    · have hne : a ≠ b := fun heq => hab (heq ▸ rfl)
      rw [beq_eq_false_iff_ne.2 hab]
      simp [hne, Ne.symm hab]

/-- Members with the same name are counted once for every name. -/
lemma sum_countP_eq_length {names : List String} (hnames : names.Nodup)
    (hl : ∀ a ∈ l, name a ∈ names) :
    (names.map fun x => l.countP (name · == x)).sum = l.length := by
  induction l with
  | nil => simp
  | cons a rest ih =>
    have hone : (names.map fun x => if name a == x then 1 else 0).sum = 1 := by
      rw [List.sum_map_eq_nsmul_single (name a) _ fun x hx _ => by simp [Ne.symm hx],
        List.count_eq_one_of_mem hnames (hl a List.mem_cons_self)]
      simp
    simp only [List.countP_cons, List.length_cons]
    rw [List.sum_map_add, ih fun b hb => hl b (List.mem_cons_of_mem a hb), hone]

end Distinct

/-! ## Links -/

namespace Wire

variable {vertices : List String} {wires : List (Wire String)}

/-- A link is what some wires between two vertices form together. -/
lemma mem_links_iff {link : Link String} :
    link ∈ links vertices wires ↔ link.source ∈ vertices ∧
      (∃ w ∈ wires, w.source = link.source ∧ w.target = link.target) ∧
      linkOf wires link.source link.target = link := by
  simp only [links, adjacency, List.mem_flatMap, List.mem_map, exists_exists_and_eq_and,
    ← mem_targetsOf]
  constructor
  · rintro ⟨vertex, hvertex, target, htarget, rfl⟩
    exact ⟨hvertex, htarget, rfl⟩
  · rintro ⟨hvertex, htarget, hlink⟩
    exact ⟨link.source, hvertex, link.target, htarget, hlink⟩

/-- A vertex has one link to every target. -/
lemma nodup_targetsOf (vertex : String) : (targetsOf wires vertex).Nodup := by
  rw [targetsOf, ← List.map_id (distinctBy id _)]
  exact nodup_map_distinctBy

/-- There is one link between two vertices. -/
lemma nodup_ends (hvertices : vertices.Nodup) :
    ((links vertices wires).map fun link => (link.source, link.target)).Nodup := by
  have hends : (links vertices wires).map (fun link => (link.source, link.target)) =
      vertices.flatMap fun vertex => (targetsOf wires vertex).map (vertex, ·) := by
    simp [links, adjacency, List.flatMap_map, List.map_flatMap, linkOf, Function.comp_def]
  rw [hends, List.nodup_flatMap]
  refine ⟨fun vertex _ => (nodup_targetsOf vertex).map fun _ _ h => (Prod.mk.inj h).2, ?_⟩
  refine hvertices.imp fun {u v} huv => ?_
  intro pair hu hv
  obtain ⟨s, -, rfl⟩ := List.mem_map.1 hu
  obtain ⟨t, -, heq⟩ := List.mem_map.1 hv
  exact huv (Prod.mk.inj heq).1.symm

/-- **Every wire leaves one socket on the links.** -/
theorem sum_length_sockets (hvertices : vertices.Nodup) (hwires : ∀ w ∈ wires, w.source ∈ vertices) :
    ((links vertices wires).map (·.sockets.length)).sum = wires.length := by
  have htargets (vertex : String) :
      ((targetsOf wires vertex).map fun target => (linkOf wires vertex target).sockets.length).sum =
        wires.countP (·.source == vertex) := by
    have hcount (target : String) : (linkOf wires vertex target).sockets.length =
        (wires.filter (·.source == vertex)).countP (·.target == target) := by
      rw [linkOf, List.length_map, List.countP_eq_length_filter, List.filter_filter]
      simp only [Bool.and_comm]
    simp only [hcount]
    rw [sum_countP_eq_length (nodup_targetsOf vertex), List.countP_eq_length_filter]
    intro w hw
    obtain ⟨hmem, hsource⟩ := List.mem_filter.1 hw
    exact mem_targetsOf.2 ⟨w, hmem, beq_iff_eq.1 hsource, rfl⟩
  calc ((links vertices wires).map (·.sockets.length)).sum
      = (vertices.map fun vertex => ((targetsOf wires vertex).map fun target =>
          (linkOf wires vertex target).sockets.length).sum).sum := by
        rw [← List.length_flatMap, links, adjacency, List.flatMap_map, List.flatMap_assoc,
          List.length_flatMap]
        simp only [List.flatMap_map, List.length_flatMap]
    _ = (vertices.map fun vertex => wires.countP (·.source == vertex)).sum := by
        simp only [htargets]
    _ = wires.length := sum_countP_eq_length hvertices hwires

/-! ## One more wire -/

/-- A wire leads from its source to its target, and from nowhere else. -/
lemma targetsOf_concat (w : Wire String) (vertex : String) :
    targetsOf (wires ++ [w]) vertex =
      if w.source = vertex ∧ w.target ∉ targetsOf wires vertex then
        targetsOf wires vertex ++ [w.target]
      else targetsOf wires vertex := by
  have hmem : w.target ∈ targetsOf wires vertex ↔
      w.target ∈ ((wires.filter (·.source == vertex)).map (·.target)).map id := by
    rw [mem_targetsOf]
    simp [and_assoc]
  by_cases hsource : w.source = vertex
  · simp only [hsource, hmem, true_and, ite_not]
    simp only [targetsOf, List.filter_append, List.map_append]
    rw [List.filter_cons_of_pos (by simpa using hsource), List.filter_nil, List.map_singleton,
      distinctBy_concat]
    rfl
  · rw [if_neg fun h => hsource h.1]
    simp only [targetsOf, List.filter_append, List.map_append]
    rw [List.filter_cons_of_neg (by simpa using hsource)]
    simp

/-- A wire leaves its socket on the link between its ends. -/
lemma linkOf_concat (w : Wire String) (u v : String) :
    linkOf (wires ++ [w]) u v =
      if w.source = u ∧ w.target = v then
        { linkOf wires u v with sockets := (linkOf wires u v).sockets ++ [w.socket] }
      else linkOf wires u v := by
  by_cases h : w.source = u ∧ w.target = v
  · rw [if_pos h]
    simp [linkOf, h]
  · rw [if_neg h]
    simpa [linkOf] using h

/-- Where no wire leads, no socket is fed. -/
lemma linkOf_of_notMem {u v : String} (h : v ∉ targetsOf wires u) : linkOf wires u v = ⟨u, v, []⟩ := by
  rw [mem_targetsOf] at h
  have hnone : (wires.filter fun w => w.source == u && w.target == v) = [] :=
    List.filter_eq_nil_iff.2 fun w hw hends => h ⟨w, hw, by simpa using hends⟩
  rw [linkOf, hnone, List.map_nil]

end Wire

/-! ## Drawing one by one -/

/-- A vertex that is drawn, with its label and the links that start at it. -/
structure Drawing.Row where
  id : String
  kind : String
  links : List (Link String)

/-- Vertices in the order in which they are drawn. -/
abbrev Drawing := List Drawing.Row

namespace Drawing

/-- Draws a node, unless its id is drawn already. -/
def addNode (drawing : Drawing) (node : Node) : Drawing :=
  if drawing.any (·.id == node.id) then drawing else drawing ++ [⟨node.id, node.kind, []⟩]

/-- Leaves the socket of a connection on the link to its target, which is new if there is none. -/
def addSocket (links : List (Link String)) (c : Connection) : List (Link String) :=
  if links.any (·.target == c.target) then
    links.map fun link =>
      if link.target = c.target then { link with sockets := link.sockets ++ [c.socket] } else link
  else links ++ [⟨c.source, c.target, [c.socket]⟩]

/-- Draws a connection, unless one of its ends is missing. -/
def addConnection (drawing : Drawing) (c : Connection) : Drawing :=
  if drawing.any (·.id == c.source) && drawing.any (·.id == c.target) then
    drawing.map fun row =>
      if row.id = c.source then { row with links := addSocket row.links c } else row
  else drawing

/-- Draws the nodes of a graph and then its connections. -/
def ofGraph (graph : Graph) : Drawing :=
  graph.connections.foldl addConnection (graph.nodes.foldl addNode [])

/-- The first nodes of their ids, with the links that the given wires form. -/
def rows (nodes : List Node) (wires : List Connection) : Drawing :=
  (distinctBy Node.id nodes).map fun node =>
    ⟨node.id, node.kind, (Wire.targetsOf wires node.id).map (Wire.linkOf wires node.id)⟩

variable {nodes : List Node} {wires : List Connection} {graph : Graph}

/-- An id is drawn if some node has it. -/
lemma any_rows (id : String) :
    (rows nodes wires).any (·.id == id) = true ↔ id ∈ nodes.map (·.id) := by
  rw [← mem_map_distinctBy Node.id]
  simp [rows]

/-- One more node is drawn if its id is new. -/
lemma addNode_rows (node : Node) : addNode (rows nodes []) node = rows (nodes ++ [node]) [] := by
  rw [addNode]
  split_ifs with h
  · rw [rows, rows, distinctBy_concat, if_pos (any_rows node.id |>.1 h)]
  · rw [rows, rows, distinctBy_concat, if_neg fun hmem => h (any_rows node.id |>.2 hmem),
      List.map_append]
    rfl

/-- All nodes drawn, there is a row for every id. -/
lemma foldl_addNode (nodes : List Node) : nodes.foldl addNode [] = rows nodes [] := by
  induction nodes using List.reverseRecOn with
  | nil => rfl
  | append_singleton nodes node ih => rw [List.foldl_concat, ih, addNode_rows]

/-- One more connection from a vertex leaves its socket on one of the links of the vertex. -/
lemma addSocket_links (c : Connection) :
    addSocket ((Wire.targetsOf wires c.source).map (Wire.linkOf wires c.source)) c =
      (Wire.targetsOf (wires ++ [c]) c.source).map (Wire.linkOf (wires ++ [c]) c.source) := by
  have hany : ((Wire.targetsOf wires c.source).map (Wire.linkOf wires c.source)).any
      (·.target == c.target) = true ↔ c.target ∈ Wire.targetsOf wires c.source := by
    simp [Wire.linkOf]
  rw [addSocket, Wire.targetsOf_concat]
  by_cases htarget : c.target ∈ Wire.targetsOf wires c.source
  · rw [if_pos (hany.2 htarget), if_neg fun h => h.2 htarget, List.map_map]
    refine List.map_congr_left fun target _ => ?_
    rw [Wire.linkOf_concat, Function.comp_apply]
    by_cases heq : target = c.target
    · simp [Wire.linkOf, heq]
    · simp [Wire.linkOf, heq, Ne.symm heq]
  · rw [if_neg fun h => htarget (hany.1 h), if_pos ⟨rfl, htarget⟩, List.map_append,
      List.map_singleton, Wire.linkOf_concat, if_pos ⟨rfl, rfl⟩, Wire.linkOf_of_notMem htarget]
    congr 1
    refine List.map_congr_left fun target hmem => ?_
    have hne : c.target ≠ target := fun heq => htarget (heq ▸ hmem)
    rw [Wire.linkOf_concat, if_neg fun h => hne h.2]

/-- **Drawing one more connection** adds it to the wires of the drawing. -/
theorem addConnection_rows (c : Connection) (hc : Wire.joins (nodes.map (·.id)) c = true) :
    addConnection (rows nodes wires) c = rows nodes (wires ++ [c]) := by
  simp only [Wire.joins, Bool.and_eq_true, List.contains_iff_mem] at hc
  rw [addConnection, if_pos]
  · rw [rows, rows, List.map_map]
    refine List.map_congr_left fun node _ => ?_
    simp only [Function.comp_apply]
    by_cases hnode : node.id = c.source
    · simp only [hnode, if_true, addSocket_links]
    · have htargets : Wire.targetsOf (wires ++ [c]) node.id = Wire.targetsOf wires node.id := by
        rw [Wire.targetsOf_concat, if_neg fun h => hnode h.1.symm]
      have hlinks : Wire.linkOf (wires ++ [c]) node.id = Wire.linkOf wires node.id := by
        funext target
        rw [Wire.linkOf_concat, if_neg fun h => hnode h.1.symm]
      rw [if_neg hnode, htargets, hlinks]
  · rw [Bool.and_eq_true, any_rows, any_rows]
    exact hc

/-- A connection without one of its ends is not drawn. -/
lemma addConnection_of_missing (c : Connection) (hc : Wire.joins (nodes.map (·.id)) c = false) :
    addConnection (rows nodes wires) c = rows nodes wires := by
  rw [addConnection, if_neg]
  rw [Bool.and_eq_true, any_rows, any_rows]
  simpa [Wire.joins] using hc

/-- **The drawing of a graph is its structure.**

**Proof sketch.** Induction on the connections from the end. With the last one the sound ones are
those before it and the last one itself, if its ends exist. -/
theorem ofGraph_eq (graph : Graph) : ofGraph graph = rows graph.nodes graph.sound := by
  have hjoins (c : Connection) :
      Wire.joins graph.vertices c = Wire.joins (graph.nodes.map (·.id)) c := by
    rw [Bool.eq_iff_iff]
    simp only [Wire.joins, Bool.and_eq_true, List.contains_iff_mem, Graph.vertices,
      mem_map_distinctBy Node.id]
  have hrun (connections : List Connection) :
      connections.foldl addConnection (rows graph.nodes []) =
        rows graph.nodes (connections.filter (Wire.joins graph.vertices)) := by
    induction connections using List.reverseRecOn with
    | nil => rfl
    | append_singleton connections c ih =>
      rw [List.foldl_concat, ih, List.filter_append]
      cases hc : Wire.joins graph.vertices c with
      | true => rw [List.filter_singleton, hc, addConnection_rows c (hjoins c ▸ hc)]; rfl
      | false =>
        rw [List.filter_singleton, hc, addConnection_of_missing c (hjoins c ▸ hc)]
        exact (congrArg _ (List.append_nil _)).symm
  rw [ofGraph, foldl_addNode, hrun, Graph.sound]

end Drawing

/-! ## What the structure keeps -/

namespace Graph

variable {graph : Graph}

/-- Labels of vertices and links that lose nothing of a graph and invent nothing. -/
structure Depicts (graph : Graph) (labels : List (String × String)) (links : List (Link String)) :
    Prop where
  /-- The vertices are in order of first appearance, each of them once. -/
  ordered : (labels.map Prod.fst).Pairwise fun u v =>
    (graph.nodes.map (·.id)).idxOf u < (graph.nodes.map (·.id)).idxOf v
  /-- The vertices are the ids of nodes, labelled with the kinds of the first nodes. -/
  labelled : ∀ id kind, (id, kind) ∈ labels ↔ (graph.node? id).map (·.kind) = some kind
  /-- Links lead where connections lead from one existing node to another. -/
  linked : ∀ u v, (∃ link ∈ links, link.source = u ∧ link.target = v) ↔
    graph.Joined u v ∧ (graph.node? u).isSome ∧ (graph.node? v).isSome
  /-- There is one link between two vertices. -/
  simple : (links.map fun link => (link.source, link.target)).Nodup
  /-- A link has the sockets of all connections between its ends, in order. -/
  sockets : ∀ link ∈ links, link.sockets =
    (graph.connections.filter fun c => c.source == link.source && c.target == link.target).map
      (·.socket)

/-- The labels name the vertices. -/
lemma map_fst_labels (graph : Graph) : graph.labels.map Prod.fst = graph.vertices := by
  simp [labels, vertices, Function.comp_def]

/-- The vertices are distinct. -/
lemma nodup_vertices (graph : Graph) : graph.vertices.Nodup :=
  nodup_map_distinctBy

/-- A label has the kind of the first node with its id. -/
lemma mem_labels_iff {id kind : String} :
    (id, kind) ∈ graph.labels ↔ (graph.node? id).map (·.kind) = some kind := by
  simp only [labels, List.mem_map, Prod.mk.injEq, mem_distinctBy_iff, Option.map_eq_some_iff,
    node?]
  constructor
  · rintro ⟨node, hfirst, rfl, rfl⟩
    exact ⟨node, hfirst, rfl⟩
  · rintro ⟨node, hfirst, rfl⟩
    have hid : node.id = id := id_of_node? hfirst
    exact ⟨node, hid ▸ hfirst, hid, rfl⟩

/-- The ends of a sound connection exist. -/
lemma mem_sound_iff {c : Connection} : c ∈ graph.sound ↔
    c ∈ graph.connections ∧ (graph.node? c.source).isSome ∧ (graph.node? c.target).isSome := by
  simp only [sound, List.mem_filter, Wire.joins, Bool.and_eq_true, List.contains_iff_mem,
    mem_vertices]

/-- **Labels and links depict the graph.** -/
theorem depicts_structure (graph : Graph) : graph.Depicts graph.labels graph.links where
  ordered := by
    rw [map_fst_labels]
    exact pairwise_distinctBy
  labelled _ _ := mem_labels_iff
  linked u v := by
    constructor
    · rintro ⟨link, hlink, rfl, rfl⟩
      obtain ⟨-, ⟨c, hc, hsource, htarget⟩, -⟩ := Wire.mem_links_iff.1 hlink
      obtain ⟨hmem, hends⟩ := mem_sound_iff.1 hc
      exact ⟨⟨c, hmem, hsource, htarget⟩, hsource ▸ hends.1, htarget ▸ hends.2⟩
    · rintro ⟨⟨c, hc, rfl, rfl⟩, hsource, htarget⟩
      have hsound : c ∈ graph.sound := mem_sound_iff.2 ⟨hc, hsource, htarget⟩
      exact ⟨Wire.linkOf graph.sound c.source c.target,
        Wire.mem_links_iff.2 ⟨mem_vertices.2 hsource, ⟨c, hsound, rfl, rfl⟩, rfl⟩, rfl, rfl⟩
  simple := Wire.nodup_ends graph.nodup_vertices
  sockets link hlink := by
    obtain ⟨-, ⟨c, hc, hsource, htarget⟩, hlinkOf⟩ := Wire.mem_links_iff.1 hlink
    have hends := (mem_sound_iff.1 hc).2
    rw [← hlinkOf]
    simp only [Wire.linkOf, sound, List.filter_filter]
    congr 1
    refine List.filter_congr fun other _ => ?_
    rw [Bool.eq_iff_iff, Bool.and_eq_true, and_iff_left_iff_imp]
    intro heq
    simp only [Bool.and_eq_true, beq_iff_eq] at heq
    simp only [Wire.joins, Bool.and_eq_true, List.contains_iff_mem, mem_vertices, heq.1, heq.2,
      ← hsource, ← htarget]
    exact hends

/-- No other check reports a dangling connection. -/
lemma dangling_mem_issues_iff {c : Connection} {missing : String} :
    Issue.danglingConnection c missing ∈ graph.issues ↔
      Issue.danglingConnection c missing ∈ graph.danglingConnections := by
  have houtputs : Issue.danglingConnection c missing ∉ graph.multipleOutputs := by
    rw [multipleOutputs]
    split <;> simp
  simp [issues, duplicateNodes, duplicateSockets, unknownKinds, houtputs]

/-- A connection is reported as dangling exactly if one of its ends is missing. -/
lemma mem_dangling_iff {c : Connection} (hc : c ∈ graph.connections) :
    c ∈ graph.issues.filterMap Issue.dangling? ↔ c ∉ graph.sound := by
  have hreported : c ∈ graph.issues.filterMap Issue.dangling? ↔
      ∃ missing, Issue.danglingConnection c missing ∈ graph.danglingConnections := by
    simp only [← dangling_mem_issues_iff, List.mem_filterMap]
    constructor
    · rintro ⟨issue, hissue, hdangling⟩
      cases issue with
      | danglingConnection c' missing =>
        cases hdangling
        exact ⟨missing, hissue⟩
      | _ => cases hdangling
    · rintro ⟨missing, hissue⟩
      exact ⟨_, hissue, rfl⟩
  rw [hreported, mem_sound_iff]
  simp only [danglingConnections, List.mem_flatMap, List.mem_map, List.mem_filter]
  constructor
  · rintro ⟨missing, c', -, id, ⟨hid, hnone⟩, heq⟩ ⟨-, hsource, htarget⟩
    cases heq
    rcases List.mem_pair.1 hid with rfl | rfl
    · simp [Option.isNone_iff_eq_none.1 hnone] at hsource
    · simp [Option.isNone_iff_eq_none.1 hnone] at htarget
  · intro hunsound
    obtain ⟨id, hid, hnone⟩ : ∃ id ∈ [c.source, c.target], (graph.node? id).isNone = true := by
      by_contra hall
      simp only [not_exists, not_and, Bool.not_eq_true, Option.isNone_eq_false_iff,
        List.forall_mem_cons] at hall
      exact hunsound ⟨hc, hall.1, hall.2.1⟩
    exact ⟨id, c, hc, id, ⟨hid, hnone⟩, rfl⟩

/-- **The structure of a graph loses and invents nothing.** Its labels and links depict the graph;
the links have as many sockets as there are connections that validation does not report as dangling;
and labels and links are what comes of drawing nodes and connections one by one. -/
theorem structure_keeps_graph (graph : Graph) :
    graph.Depicts graph.labels graph.links ∧
    (graph.validate false).map (fun issues =>
        graph.connections.countP (· ∉ issues.filterMap Issue.dangling?)) =
      .ok (graph.links.map (·.sockets.length)).sum ∧
    (Drawing.ofGraph graph).map (fun row => (row.id, row.kind)) = graph.labels ∧
    (Drawing.ofGraph graph).flatMap (·.links) = graph.links := by
  refine ⟨depicts_structure graph, ?_, ?_, ?_⟩
  · have hcount : graph.connections.countP (· ∉ graph.issues.filterMap Issue.dangling?) =
        graph.sound.length := by
      rw [sound, ← List.countP_eq_length_filter]
      refine List.countP_congr fun c hc => ?_
      rw [decide_eq_true_iff, mem_dangling_iff hc, not_not, sound, List.mem_filter]
      exact and_iff_right hc
    have hsources : ∀ c ∈ graph.sound, c.source ∈ graph.vertices := fun c hc =>
      mem_vertices.2 (mem_sound_iff.1 hc).2.1
    rw [links, Wire.sum_length_sockets graph.nodup_vertices hsources, ← hcount]
    rfl
  · rw [Drawing.ofGraph_eq, Drawing.rows, List.map_map]
    rfl
  · rw [Drawing.ofGraph_eq, Drawing.rows, links, Wire.links, Wire.adjacency, vertices]
    simp [List.flatMap_map]

end Graph

end DesignGraph
