import DesignGraph.Proofs.Graph.Validation
import Mathlib.Data.List.Perm.Basic
/-!
# Graphs in another order

Whatever stands first in a graph wins, so the order of its nodes and connections matters: for ids
that several nodes share, for sockets that several connections feed and for several outputs. These
are ambiguities that validation reports. A graph without problems keeps none of them, so each of its
lookups finds the same wherever things stand; and it has no problems in any other order either.

## Main definitions

* `DesignGraph.Graph.Rearranges` — the same nodes and connections in any order.
* `DesignGraph.Graph.LooksUpAlike` — a graph in which every lookup finds the same.

## Main results

* `DesignGraph.Graph.Rearranges.looksUpAlike` — order has no influence on the lookups of a clean
  graph.
* `DesignGraph.Graph.Rearranges.isClean` — a clean graph is clean in any order.
-/

set_option relaxedAutoImplicit false
set_option autoImplicit false

namespace DesignGraph

open Relation

namespace Graph

/-! ## Finding the only member -/

section Find

variable {α β : Type} {l l' : List α} {p : α → Bool}

/-- What at most one member satisfies is found wherever it stands. -/
lemma find?_eq_of_perm (h : l'.Perm l) (hone : (l.filter p).length ≤ 1) :
    l'.find? p = l.find? p := by
  have hfilter : (l'.filter p).Perm (l.filter p) := h.filter p
  rw [← List.head?_filter, ← List.head?_filter]
  rcases hl : l.filter p with _ | ⟨a, _ | ⟨b, rest⟩⟩
  · rw [hl] at hfilter
    rw [hfilter.eq_nil]
  · rw [hl] at hfilter
    rw [hfilter.eq_singleton]
  · simp [hl] at hone

/-- What is looked up under a key that no two members share is found wherever it stands. -/
lemma find?_key_eq_of_perm [DecidableEq β] (h : l'.Perm l) (key : α → β)
    (hd : (l.map key).Nodup) (b : β) (hp : ∀ a, p a ↔ key a = b) :
    l'.find? p = l.find? p := by
  refine find?_eq_of_perm h ?_
  have hcount : (l.filter p).length = (l.map key).count b := by
    rw [← List.countP_eq_length_filter, List.count, List.countP_map]
    exact List.countP_congr fun a _ => by simp [hp]
  rw [hcount]
  exact List.nodup_iff_count_le_one.1 hd b

end Find

/-! ## Rearranged graphs -/

/-- The same nodes and the same connections in any order, under the same id. -/
structure Rearranges (graph graph' : Graph) : Prop where
  id : graph'.id = graph.id
  nodes : graph'.nodes.Perm graph.nodes
  connections : graph'.connections.Perm graph.connections

/-- A graph in which every lookup finds the same as in another one. -/
structure LooksUpAlike (graph graph' : Graph) : Prop where
  node : ∀ id, graph'.node? id = graph.node? id
  source : ∀ target socket, graph'.source? target socket = graph.source? target socket
  output : graph'.output? = graph.output?

variable {graph graph' : Graph}

lemma LooksUpAlike.symm (h : graph.LooksUpAlike graph') : graph'.LooksUpAlike graph :=
  ⟨fun id => (h.node id).symm, fun target socket => (h.source target socket).symm, h.output.symm⟩

/-- **Order has no influence on the lookups of a clean graph.** -/
theorem Rearranges.looksUpAlike (h : graph.Rearranges graph') (hclean : graph.IsClean) :
    graph.LooksUpAlike graph' where
  node id := find?_key_eq_of_perm h.nodes Node.id hclean.nodes id (by simp)
  source target socket := by
    have hfind : (graph'.connections.find? fun c => c.target == target && c.socket == socket) =
        graph.connections.find? fun c => c.target == target && c.socket == socket :=
      find?_key_eq_of_perm h.connections (fun c => (c.target, c.socket)) hclean.sockets
        (target, socket) (by simp)
    rw [source?, source?, hfind]
  output := find?_eq_of_perm h.nodes hclean.outputs

/-- The same connections join the same ids. -/
lemma Rearranges.joined (h : graph.Rearranges graph') {u v : String} (huv : graph'.Joined u v) :
    graph.Joined u v := by
  obtain ⟨c, hc, hends⟩ := huv
  exact ⟨c, h.connections.mem_iff.1 hc, hends⟩

/-- **A clean graph is clean in any order.** -/
theorem Rearranges.isClean (h : graph.Rearranges graph') (hclean : graph.IsClean) :
    graph'.IsClean where
  nodes := (h.nodes.map _).nodup_iff.2 hclean.nodes
  sockets := (h.connections.map _).nodup_iff.2 hclean.sockets
  outputs := by
    rw [(h.nodes.filter Node.isOutput).length_eq]
    exact hclean.outputs
  ends c hc := by
    rw [(h.looksUpAlike hclean).node, (h.looksUpAlike hclean).node]
    exact hclean.ends c (h.connections.mem_iff.1 hc)
  kinds node hnode := hclean.kinds node (h.nodes.mem_iff.1 hnode)
  acyclic id hid := hclean.acyclic id (TransGen.mono (fun _ _ => h.joined) _ _ hid)

end Graph

end DesignGraph
