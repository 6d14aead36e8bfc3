import DesignGraph.Graph.Validation
import DesignGraph.Proofs.Evaluation.Course
import DesignGraph.Proofs.Graph.Component
import Mathlib.Data.List.Chain
/-!
# Where cycles are cut

A request is cut, and answered with null, when the program of its node is running. The running
programs form a chain in which each one waits for the next, so a cut closes a path of sound
connections. Validation lists this path's component as a cycle: what an evaluation cuts, an author
has been told about, and a graph without reported cycles is never cut.

## Main definitions

* `DesignGraph.Graph.Feeds` — a node is read by a socket of another one.
* `DesignGraph.Evaluation.Waiting` — the running programs wait for one another.
* `DesignGraph.Evaluation.Closes` — a cut closes a path.

## Main results

* `DesignGraph.Evaluation.Runs.closes` — every cut of an evaluation closes a path.
* `DesignGraph.Evaluation.cut_members_mem_cycle` — it does so within one reported cycle.
-/

set_option relaxedAutoImplicit false
set_option autoImplicit false

namespace DesignGraph

open Relation

namespace Graph

/-- The node `source` is what some socket of the node `target` reads. -/
def Feeds (graph : Graph) (source target : String) : Prop :=
  ∃ socket, graph.source? target socket = some source

/-- What is read between existing nodes is a sound connection. -/
lemma Feeds.linked {graph : Graph} {u v : String} (h : graph.Feeds u v)
    (hu : (graph.node? u).isSome) (hv : (graph.node? v).isSome) : graph.Linked u v := by
  obtain ⟨socket, hs⟩ := h
  obtain ⟨c, hc, rfl⟩ := Option.map_eq_some_iff.1 hs
  have htarget : c.target = v := by
    have := List.find?_some hc
    simp only [Bool.and_eq_true, beq_iff_eq] at this
    exact this.1
  refine ⟨c, List.mem_filter.2 ⟨List.mem_of_find?_eq_some hc, ?_⟩, rfl, htarget⟩
  simp only [Wire.joins, Bool.and_eq_true, List.contains_iff_mem, mem_vertices]
  exact ⟨hu, htarget ▸ hv⟩

/-- Every cycle is reported. -/
lemma cycle_mem_issues {graph : Graph} {c : List String} (hc : c ∈ graph.cycles) :
    .cycle c ∈ graph.issues :=
  List.mem_append_right _ (List.mem_map_of_mem hc)

/-- Where no cycle is reported, no node reaches itself. -/
lemma not_mutual_self {graph : Graph} (hc : ∀ issue ∈ graph.issues, issue.code ≠ "cycle")
    {id : String} : ¬ graph.Mutual id id := by
  intro h
  obtain ⟨c, hmem, -⟩ := exists_cycle h.1
  exact hc (.cycle c) (cycle_mem_issues hmem) rfl

end Graph

namespace Evaluation

variable {σ : Type}

/-- The running programs exist and wait for one another: each of them reads the one that was
entered after it, and the innermost one is at its job. -/
structure Waiting (graph : Graph) (path : List String) (job : Job) : Prop where
  exist : ∀ id ∈ path, (graph.node? id).isSome
  chain : match job with
    | .value id => (id :: path).IsChain graph.Feeds
    | .rest node _ => path.IsChain graph.Feeds ∧ path.head? = some node.id

section Waiting

variable {graph : Graph} {path : List String} {node : Node} {program : Program Outcome}

/-- Nothing waits for a request from outside. -/
lemma Waiting.outside (id : String) : Waiting graph [] (.value id) :=
  ⟨nofun, List.isChain_singleton id⟩

/-- A node that is entered joins the programs that wait. -/
lemma Waiting.enter {id : String} (hw : Waiting graph path (.value id))
    (hn : graph.node? id = some node) : Waiting graph (id :: path) (.rest node node.program) := by
  refine ⟨?_, hw.chain, by simp [Graph.id_of_node? hn]⟩
  simpa [hn] using hw.exist

/-- The programs that wait go on waiting when the innermost one reads a node. -/
lemma Waiting.read {socket source : String} (hw : Waiting graph path (.rest node program))
    (hs : graph.source? node.id socket = some source) : Waiting graph path (.value source) := by
  obtain ⟨hchain, hhead⟩ := hw.chain
  obtain ⟨callers, rfl⟩ := List.head?_eq_some_iff.1 hhead
  exact ⟨hw.exist, List.isChain_cons_cons.2 ⟨⟨socket, hs⟩, hchain⟩⟩

/-- The programs that wait go on waiting when the innermost one goes on. -/
lemma Waiting.go_on {next : Program Outcome} (hw : Waiting graph path (.rest node program)) :
    Waiting graph path (.rest node next) :=
  ⟨hw.exist, hw.chain⟩

end Waiting

/-- If a visit was cut, then its node was entered before, and every node entered since reaches it
and is reached from it. -/
def Closes (graph : Graph) (visit : Visit) : Prop :=
  visit.answer = .cut → visit.id ∈ visit.path ∧
    ∀ id ∈ visit.id :: visit.path.takeWhile (· ≠ visit.id), graph.Mutual visit.id id

/-- A list that holds `id` goes on with `id` after the members before it. -/
lemma exists_takeWhile_append {path : List String} {id : String} (h : id ∈ path) :
    ∃ rest, path = path.takeWhile (· ≠ id) ++ id :: rest := by
  induction path with
  | nil => simp at h
  | cons x path ih =>
    by_cases hx : x = id
    · exact ⟨path, by simp [hx]⟩
    · obtain ⟨rest, hrest⟩ := ih ((List.mem_cons.1 h).resolve_left (Ne.symm hx))
      exact ⟨rest, by simpa [hx] using hrest⟩

/-- **A request that is cut closes a path.**

**Proof sketch.** Along the waiting programs, followed by the node that is asked for again, every
member reaches all later ones. The node is the first and the last member. -/
lemma closes_of_mem {graph : Graph} {path : List String} {id : String}
    (hw : Waiting graph path (.value id)) (hid : id ∈ path) (answer : Answer) :
    Closes graph ⟨id, path, answer⟩ := by
  intro _
  refine ⟨hid, ?_⟩
  obtain ⟨rest, hpath⟩ := exists_takeWhile_append hid
  set inner := path.takeWhile (· ≠ id)
  have hexist : ∀ x ∈ id :: (inner ++ [id]), (graph.node? x).isSome := by
    intro x hx
    apply hw.exist
    rw [hpath]
    simp only [List.mem_cons, List.mem_append, List.not_mem_nil, or_false] at hx ⊢
    tauto
  have hchain : (id :: (inner ++ [id])).IsChain (TransGen graph.Linked) := by
    have hfeeds : (id :: (inner ++ [id])).IsChain graph.Feeds := by
      have h := hw.chain
      dsimp only at h
      rw [hpath, show id :: (inner ++ id :: rest) = (id :: (inner ++ [id])) ++ rest by simp] at h
      exact h.left_of_append
    refine hfeeds.imp_of_mem_imp fun a b ha hb hab => ?_
    exact .single (hab.linked (hexist a ha) (hexist b hb))
  have hpairs := List.isChain_iff_pairwise.1 hchain
  rw [List.pairwise_cons, List.pairwise_append] at hpairs
  obtain ⟨hfirst, -, -, hlast⟩ := hpairs
  have hself : TransGen graph.Linked id id := hfirst id (by simp)
  intro x hx
  rcases List.mem_cons.1 hx with rfl | hx
  · exact ⟨hself, hself⟩
  · exact ⟨hfirst x (by simp [hx]), hlast x hx id (by simp)⟩

/-- **Every cut of an evaluation closes a path.**

**Proof sketch.** Induction on the rules. A node that is entered is read by the program before it,
which keeps the running programs waiting for one another; the only cut is the rule `cut`. -/
theorem Runs.closes {setting : Setting σ} {path : List String} {job : Job} {p : Progress σ}
    {r : Except Fault Signal × Progress σ} (h : Runs setting path job p r)
    (hw : Waiting setting.graph path job) (hp : ∀ visit ∈ p.trail, Closes setting.graph visit) :
    ∀ visit ∈ r.2.trail, Closes setting.graph visit := by
  have hnote {id : String} {path : List String} {answer : Answer} {p : Progress σ}
      (hp : ∀ visit ∈ p.trail, Closes setting.graph visit)
      (hv : Closes setting.graph ⟨id, path, answer⟩) :
      ∀ visit ∈ (note id path answer p).trail, Closes setting.graph visit := by
    intro visit hvisit
    rcases List.mem_append.1 hvisit with hvisit | hvisit
    · exact hp visit hvisit
    · rw [List.mem_singleton.1 hvisit]
      exact hv
  induction h with
  | overridden | recalled | absent => exact hnote hp nofun
  | cut _ _ hid => exact hnote hp (closes_of_mem hw hid _)
  | entered _ _ _ hn _ ih => exact ih (hw.enter hn) (hnote hp nofun)
  | failed _ _ _ hn _ ih => exact ih (hw.enter hn) (hnote hp nofun)
  | done | fail => exact hp
  | wired hs _ _ ihv ih => exact ih hw.go_on (ihv (hw.read hs) hp)
  | broken hs _ ihv => exact ihv (hw.read hs) hp
  | met hl hm _ ih =>
    refine ih hw.go_on ?_
    rw [record, (meet_keeps hl hm).2.1]
    exact hp
  | refused hl hm =>
    rw [(meet_keeps hl hm).2.1]
    exact hp

/-- Every cut of all that was asked for from outside closes a path. -/
lemma Reached.closes {setting : Setting σ} {p : Progress σ} (h : Reached setting p) :
    ∀ visit ∈ p.trail, Closes setting.graph visit := by
  refine h.induct (P := fun p => ∀ visit ∈ p.trail, Closes setting.graph visit) ?_ ?_
  · exact fun _ _ _ => nofun
  · exact fun id p r hr hp => hr.closes (.outside id) hp

/-- Where no cycle is reported, no program waits for a node that is running. -/
lemma Waiting.not_mem {graph : Graph} {path : List String} {id : String}
    (hw : Waiting graph path (.value id)) (hc : ∀ issue ∈ graph.issues, issue.code ≠ "cycle") :
    id ∉ path := by
  intro hid
  obtain ⟨-, hmutual⟩ := closes_of_mem hw hid .cut rfl
  exact Graph.not_mutual_self hc (hmutual id List.mem_cons_self)

/-- Nothing is cut in a graph without reported cycles. -/
lemma Reached.not_cut {setting : Setting σ} {p : Progress σ} (h : Reached setting p)
    (hc : ∀ issue ∈ setting.graph.issues, issue.code ≠ "cycle") :
    ∀ visit ∈ p.trail, visit.answer ≠ .cut := by
  intro visit hv hcut
  obtain ⟨-, hmutual⟩ := h.closes visit hv hcut
  exact Graph.not_mutual_self hc (hmutual visit.id List.mem_cons_self)

/-- **A request is cut only on a cycle that validation reports**: the node that was asked for again
and all nodes that were entered since belong to one reported cycle. So nothing is ever cut in a
graph without reported cycles. -/
theorem cut_members_mem_cycle {setting : Setting σ} {p : Progress σ} (h : Reached setting p) :
    (∀ visit ∈ p.trail, visit.answer = .cut → visit.id ∈ visit.path ∧
      ∃ members, .cycle members ∈ setting.graph.issues ∧
        ∀ id ∈ visit.id :: visit.path.takeWhile (· ≠ visit.id), id ∈ members) ∧
    ((∀ issue ∈ setting.graph.issues, issue.code ≠ "cycle") →
      ∀ visit ∈ p.trail, visit.answer ≠ .cut) := by
  refine ⟨fun visit hv hcut => ?_, h.not_cut⟩
  obtain ⟨hpath, hmutual⟩ := h.closes visit hv hcut
  obtain ⟨c, hc, hmem⟩ := Graph.exists_cycle (hmutual visit.id List.mem_cons_self).1
  refine ⟨hpath, c, Graph.cycle_mem_issues hc, fun id hid => ?_⟩
  exact (hmem id).2 (hmutual id hid)

/-- Two negations that read each other. -/
def knot : Graph :=
  ⟨[⟨"a", "NOT", []⟩, ⟨"b", "NOT", []⟩], [⟨"b", "a", "in-a"⟩, ⟨"a", "b", "in-a"⟩], .null, .null⟩

/-- When one of two negations that read each other is asked for, the second request for it is cut,
and both nodes belong to one reported cycle. -/
theorem knot_members_mem_cycle :
    (⟨"a", ["b", "a"], .cut⟩ : Visit) ∈ (signal (.alone knot) "a" (.start [] 0 ())).2.trail ∧
      ∃ members, .cycle members ∈ knot.issues ∧ "a" ∈ members ∧ "b" ∈ members := by
  have hcut : (⟨"a", ["b", "a"], .cut⟩ : Visit) ∈
      (signal (.alone knot) "a" (.start [] 0 ())).2.trail := by decide
  have hreached : Reached (.alone knot) (signal (.alone knot) "a" (.start [] 0 ())).2 :=
    .signal (.start [] 0 ()) "a"
  obtain ⟨-, members, hmem, hall⟩ := (cut_members_mem_cycle hreached).1 _ hcut rfl
  exact ⟨hcut, members, hmem, hall "a" (by decide), hall "b" (by decide)⟩

end Evaluation

end DesignGraph
