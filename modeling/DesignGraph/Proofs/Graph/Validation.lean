import DesignGraph.Graph.Validation
import DesignGraph.Proofs.Graph.Cycles
/-!
# What validation tells

Validation finds no problem exactly in the graphs in which nothing is ambiguous, missing, unknown or
circular. It looks for cycles among the connections between existing nodes only; where all other
checks are silent, these are all connections.

## Main definitions

* `DesignGraph.Graph.Joined` — a connection leads from one id to another.
* `DesignGraph.Graph.IsClean` — a graph in which nothing is ambiguous, missing, unknown or circular.
* `DesignGraph.Graph.ReportsCycles` — what a list of cycles has to tell of a graph.

## Main results

* `DesignGraph.Graph.issues_eq_nil_iff` — no problem is found exactly in clean graphs.
* `DesignGraph.Graph.reportsCycles_cycles` — the reported cycles are the components of the graph.
* `DesignGraph.Graph.validate_sound_and_complete` — both, with what strict validation refuses.
-/

set_option relaxedAutoImplicit false
set_option autoImplicit false

namespace DesignGraph

open Relation

namespace Graph

variable {graph : Graph}

/-! ## Each sort of problem -/

/-- What is listed as repeated is a member of the list. -/
lemma mem_of_mem_repeated {α : Type} [BEq α] [LawfulBEq α] {l : List α} {entry : α × Nat}
    (h : entry ∈ repeated l) : entry.1 ∈ l := by
  induction l with
  | nil => cases h
  | cons a rest ih =>
    have hmore (h : entry ∈ (repeated rest).filter (·.1 != a)) : entry.1 ∈ a :: rest :=
      List.mem_cons_of_mem _ (ih (List.mem_filter.1 h).1)
    rw [repeated] at h
    split_ifs at h
    · rcases List.mem_cons.1 h with rfl | h
      · exact List.mem_cons_self
      · exact hmore h
    · exact hmore h

/-- Nothing is repeated exactly in a list without repetitions. -/
lemma repeated_eq_nil_iff {α : Type} [BEq α] [LawfulBEq α] {l : List α} :
    repeated l = [] ↔ l.Nodup := by
  induction l with
  | nil => simp [repeated]
  | cons a rest ih =>
    rw [List.nodup_cons, ← ih, repeated]
    by_cases ha : a ∈ rest
    · simp [ha]
    · have hmore : (repeated rest).filter (·.1 != a) = repeated rest :=
        List.filter_eq_self.2 fun entry hentry =>
          bne_iff_ne.2 fun heq => ha (heq ▸ mem_of_mem_repeated hentry)
      simp [ha, hmore]

/-- A graph with at most one output node has no problem with outputs. -/
lemma multipleOutputs_eq_nil_iff :
    graph.multipleOutputs = [] ↔ (graph.nodes.filter Node.isOutput).length ≤ 1 := by
  rw [multipleOutputs, ← List.length_map Node.id]
  rcases (graph.nodes.filter Node.isOutput).map Node.id with _ | ⟨first, _ | ⟨second, rest⟩⟩ <;>
    simp

/-- No end of a connection is missing exactly if both of its ends exist. -/
lemma danglingConnections_eq_nil_iff : graph.danglingConnections = [] ↔
    ∀ c ∈ graph.connections, (graph.node? c.source).isSome ∧ (graph.node? c.target).isSome := by
  simp only [danglingConnections, List.flatMap_eq_nil_iff, List.map_eq_nil_iff,
    List.filter_eq_nil_iff, List.forall_mem_cons, List.not_mem_nil, false_imp_iff, implies_true,
    and_true, Bool.not_eq_true, Option.isNone_eq_false_iff]

/-- No kind is unknown exactly if all kinds are known. -/
lemma unknownKinds_eq_nil_iff :
    graph.unknownKinds = [] ↔ ∀ node ∈ graph.nodes, Catalog.isKnown node.kind = true := by
  simp [unknownKinds]

/-- No cycle is reported exactly if no closed path leads through existing nodes. -/
lemma cycles_eq_nil_iff : graph.cycles = [] ↔ ∀ id, ¬TransGen graph.Linked id id := by
  constructor
  · intro h id hid
    obtain ⟨members, hmembers, -⟩ := exists_cycle hid
    rw [h] at hmembers
    cases hmembers
  · intro h
    refine List.eq_nil_iff_forall_not_mem.2 fun members hmembers => ?_
    obtain ⟨id, hid, -⟩ := exists_of_mem_cycles hmembers
    exact h id hid

/-! ## Clean graphs -/

/-- Some connection leads from `u` to `v`, whether or not these are ids of nodes. -/
def Joined (graph : Graph) (u v : String) : Prop :=
  ∃ c ∈ graph.connections, c.source = u ∧ c.target = v

/-- A connection between existing nodes is a connection. -/
lemma Linked.joined {u v : String} (h : graph.Linked u v) : graph.Joined u v := by
  obtain ⟨c, hc, hends⟩ := h
  exact ⟨c, (List.mem_filter.1 hc).1, hends⟩

/-- Where no end is missing, every connection is one between existing nodes. -/
lemma Joined.linked {u v : String} (h : graph.Joined u v)
    (hends : ∀ c ∈ graph.connections, (graph.node? c.source).isSome ∧
      (graph.node? c.target).isSome) : graph.Linked u v := by
  obtain ⟨c, hc, hjoins⟩ := h
  refine ⟨c, List.mem_filter.2 ⟨hc, ?_⟩, hjoins⟩
  simp only [Wire.joins, Bool.and_eq_true, List.contains_iff_mem, mem_vertices]
  exact hends c hc

/-- A graph in which nothing is ambiguous, missing, unknown or circular. -/
structure IsClean (graph : Graph) : Prop where
  /-- No two nodes share an id. -/
  nodes : (graph.nodes.map (·.id)).Nodup
  /-- No two connections feed the same socket. -/
  sockets : (graph.connections.map fun c => (c.target, c.socket)).Nodup
  /-- At most one node is an output. -/
  outputs : (graph.nodes.filter Node.isOutput).length ≤ 1
  /-- Both ends of every connection exist. -/
  ends : ∀ c ∈ graph.connections, (graph.node? c.source).isSome ∧ (graph.node? c.target).isSome
  /-- The kind of every node is known. -/
  kinds : ∀ node ∈ graph.nodes, Catalog.isKnown node.kind = true
  /-- No path along connections is closed. -/
  acyclic : ∀ id, ¬TransGen graph.Joined id id

/-- **No problem is found exactly in clean graphs.** -/
theorem issues_eq_nil_iff : graph.issues = [] ↔ graph.IsClean := by
  have hparts : graph.issues = [] ↔ (graph.nodes.map (·.id)).Nodup ∧
      (graph.connections.map fun c => (c.target, c.socket)).Nodup ∧
      (graph.nodes.filter Node.isOutput).length ≤ 1 ∧
      (∀ c ∈ graph.connections, (graph.node? c.source).isSome ∧ (graph.node? c.target).isSome) ∧
      (∀ node ∈ graph.nodes, Catalog.isKnown node.kind = true) ∧
      ∀ id, ¬TransGen graph.Linked id id := by
    simp only [issues, List.append_eq_nil_iff, duplicateNodes, duplicateSockets,
      List.map_eq_nil_iff, repeated_eq_nil_iff, multipleOutputs_eq_nil_iff,
      danglingConnections_eq_nil_iff, unknownKinds_eq_nil_iff, cycles_eq_nil_iff, and_assoc]
  rw [hparts]
  constructor
  · rintro ⟨hnodes, hsockets, houtputs, hends, hkinds, hacyclic⟩
    refine ⟨hnodes, hsockets, houtputs, hends, hkinds, fun id hid => hacyclic id ?_⟩
    exact TransGen.mono (fun _ _ h => h.linked hends) _ _ hid
  · intro h
    exact ⟨h.nodes, h.sockets, h.outputs, h.ends, h.kinds,
      fun id hid => h.acyclic id (TransGen.mono (fun _ _ h => h.joined) _ _ hid)⟩

/-! ## Reported cycles -/

/-- **What a list of cycles has to tell of a graph**, where paths lead along connections between
existing nodes and have at least one connection. -/
structure ReportsCycles (graph : Graph) (cycles : List (List String)) : Prop where
  /-- The members of a cycle are sorted, none of them twice. -/
  sorted : ∀ members ∈ cycles, members.Pairwise (· < ·)
  /-- No two cycles share a member. -/
  disjoint : cycles.Pairwise List.Disjoint
  /-- A cycle has a member, and every member exists. -/
  inhabited : ∀ members ∈ cycles, members ≠ [] ∧ ∀ id ∈ members, (graph.node? id).isSome
  /-- The id of a node is in some cycle exactly if a path leads from it back to itself. -/
  covers : ∀ id, (graph.node? id).isSome →
    ((∃ members ∈ cycles, id ∈ members) ↔ TransGen graph.Linked id id)
  /-- Two ids in cycles are in the same one exactly if each of them reaches the other. -/
  shares : ∀ u v, (∃ members ∈ cycles, u ∈ members) → (∃ members ∈ cycles, v ∈ members) →
    ((∃ members ∈ cycles, u ∈ members ∧ v ∈ members) ↔
      TransGen graph.Linked u v ∧ TransGen graph.Linked v u)

/-- **The listed cycles are the components of the graph.** -/
lemma reportsCycles_cycles (graph : Graph) : graph.ReportsCycles graph.cycles := by
  have hmutual {members : List String} (hmembers : members ∈ graph.cycles) {u v : String}
      (hu : u ∈ members) (hv : v ∈ members) : graph.Mutual u v := by
    obtain ⟨id, -, hiff⟩ := exists_of_mem_cycles hmembers
    exact ((hiff u).1 hu).symm.trans ((hiff v).1 hv)
  refine ⟨fun members => sorted_of_mem_cycles, disjoint_cycles graph, fun members hmembers => ?_,
    fun id _ => ⟨?_, fun hid => ?_⟩, fun u v hu _ => ⟨?_, fun huv => ?_⟩⟩
  · obtain ⟨id, hid, hiff⟩ := exists_of_mem_cycles hmembers
    refine ⟨List.ne_nil_of_mem ((hiff id).2 ⟨hid, hid⟩), fun other hother => ?_⟩
    obtain ⟨_, -, hlast⟩ := TransGen.tail'_iff.1 ((hiff other).1 hother).1
    exact mem_vertices.1 hlast.target_mem
  · rintro ⟨members, hmembers, hid⟩
    exact (hmutual hmembers hid hid).1
  · obtain ⟨members, hmembers, hiff⟩ := exists_cycle hid
    exact ⟨members, hmembers, (hiff id).2 ⟨hid, hid⟩⟩
  · rintro ⟨members, hmembers, hu, hv⟩
    exact hmutual hmembers hu hv
  · obtain ⟨members, hmembers, hiff⟩ := exists_cycle (huv.1.trans huv.2)
    exact ⟨members, hmembers, (hiff u).2 ⟨huv.1.trans huv.2, huv.1.trans huv.2⟩, (hiff v).2 huv⟩

end Graph

/-- The members of the cycle that a problem reports, if it reports one. -/
def Issue.members? : Issue → Option (List String)
  | .cycle members => some members
  | _ => none

namespace Graph

/-- The problems that report cycles report the listed ones, in order. -/
lemma filterMap_members?_issues (graph : Graph) :
    graph.issues.filterMap Issue.members? = graph.cycles := by
  have hmap {α : Type} {l : List α} {f : α → Issue} (hf : ∀ a, (f a).members? = none) :
      (l.map f).filterMap Issue.members? = [] := by
    simp [List.filterMap_map, hf]
  have hnodes : graph.duplicateNodes.filterMap Issue.members? = [] := hmap fun _ => rfl
  have hsockets : graph.duplicateSockets.filterMap Issue.members? = [] := hmap fun _ => rfl
  have houtputs : graph.multipleOutputs.filterMap Issue.members? = [] := by
    rw [multipleOutputs]
    split <;> rfl
  have hends : graph.danglingConnections.filterMap Issue.members? = [] := by
    rw [danglingConnections, List.filterMap_flatMap, List.flatMap_eq_nil_iff]
    exact fun c _ => hmap fun _ => rfl
  have hkinds : graph.unknownKinds.filterMap Issue.members? = [] := hmap fun _ => rfl
  have hcycles : (graph.cycles.map Issue.cycle).filterMap Issue.members? = graph.cycles := by
    simp [List.filterMap_map, Function.comp_def, Issue.members?]
  simp only [issues, List.filterMap_append, hnodes, hsockets, houtputs, hends, hkinds, hcycles,
    List.nil_append]

/-- **Validation is sound and complete.** It finds no problem exactly in clean graphs, the cycles
that it reports are the components of the graph, and a strict validation refuses a graph with all
the problems that it has, if there are any. -/
theorem validate_sound_and_complete (graph : Graph) :
    (graph.validate false = .ok [] ↔ graph.IsClean) ∧
      (∃ issues, graph.validate false = .ok issues ∧
        graph.ReportsCycles (issues.filterMap Issue.members?) ∧
        graph.validate true =
          if issues = [] then .ok [] else .error ⟨graph.label, issues⟩) := by
  have hlenient : graph.validate false = .ok graph.issues := rfl
  refine ⟨?_, graph.issues, hlenient, ?_, ?_⟩
  · rw [hlenient, Except.ok.injEq, issues_eq_nil_iff]
  · rw [filterMap_members?_issues]
    exact reportsCycles_cycles graph
  · rw [validate]
    rcases graph.issues with _ | ⟨issue, rest⟩ <;> rfl

end Graph

end DesignGraph
