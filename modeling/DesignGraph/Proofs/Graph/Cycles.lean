import DesignGraph.Proofs.Graph.Component
import Mathlib.Data.List.Nodup
/-!
# Every component once

A component is listed when its last member in the order of the walk comes up. The walk leaves no
vertex twice, since it leaves a vertex in the visit that enters it. So no component is listed twice,
and no vertex stands twice in the component that it belongs to.

## Main definitions

* `DesignGraph.Walk.State.IsOnce` — a walk that has left no vertex twice.
* `DesignGraph.Graph.componentIn` — the component of a vertex among known vertices, sorted.

## Main results

* `DesignGraph.Graph.nodup_leavingOrder` — the walk leaves no vertex twice.
* `DesignGraph.Graph.exists_of_mem_cycles` — every cycle that is listed is a component.
* `DesignGraph.Graph.disjoint_cycles` — no two of them share a vertex.
* `DesignGraph.Graph.sorted_of_mem_cycles` — their members stand in strictly rising order.
-/

set_option relaxedAutoImplicit false
set_option autoImplicit false

namespace DesignGraph

open Relation

/-! ## Walks -/

namespace Walk

/-- The walk has left no vertex twice, and none that it has not entered. -/
structure State.IsOnce (state : State) : Prop where
  nodup : state.left.Nodup
  entered : state.left ⊆ state.entered

/-- What the walk has newly left it had not entered before. -/
def LeavesFresh (before after : State) : Prop :=
  ∀ id ∈ after.left, id ∈ before.left ∨ id ∉ before.entered

lemma LeavesFresh.refl (state : State) : LeavesFresh state state :=
  fun _ h => .inl h

lemma LeavesFresh.trans {a b c : State} (h : LeavesFresh a b) (hentered : a.entered ⊆ b.entered)
    (h' : LeavesFresh b c) : LeavesFresh a c := by
  intro id hid
  rcases h' id hid with hid | hid
  · exact h id hid
  · exact .inr fun ha => hid (hentered ha)

/-- A walk along a list leaves no vertex twice if none of its visits does. -/
lemma once_foldl {visit : String → State → State} (hgrows : ∀ id state, Grows state (visit id state))
    (h : ∀ id state, state.IsOnce → (visit id state).IsOnce ∧ LeavesFresh state (visit id state))
    (ids : List String) {state : State} (hstate : state.IsOnce) :
    (ids.foldl (fun st id => visit id st) state).IsOnce ∧
      LeavesFresh state (ids.foldl (fun st id => visit id st) state) := by
  induction ids generalizing state with
  | nil => exact ⟨hstate, .refl state⟩
  | cons id rest ih =>
    obtain ⟨honce, hfresh⟩ := h id state hstate
    obtain ⟨honce', hfresh'⟩ := ih honce
    exact ⟨honce', hfresh.trans (hgrows id state).entered hfresh'⟩

/-- A visit leaves no vertex twice.

**Proof sketch.** Induction on the depth. The walk from the entered vertex leaves only vertices that
were not entered before, so it does not leave that vertex, which is left once afterwards. -/
lemma once_visit (next : String → List String) (depth : Nat) (id : String) {state : State}
    (hstate : state.IsOnce) :
    (visit next depth id state).IsOnce ∧ LeavesFresh state (visit next depth id state) := by
  induction depth generalizing id state with
  | zero => exact ⟨hstate, .refl state⟩
  | succ depth ih =>
    rw [visit]
    split
    case isTrue => exact ⟨hstate, .refl state⟩
    case isFalse hnew =>
      have hnew : id ∉ state.entered := by simpa using hnew
      have hstart : State.IsOnce ⟨id :: state.entered, state.left⟩ :=
        ⟨hstate.nodup, fun x hx => List.mem_cons_of_mem _ (hstate.entered hx)⟩
      have hgrows := grows_foldl (grows_visit next depth) (next id)
        ⟨id :: state.entered, state.left⟩
      obtain ⟨honce, hfresh⟩ :=
        once_foldl (grows_visit next depth) (fun w _ h => ih w h) (next id) hstart
      dsimp only
      generalize (next id).foldl (fun st w => visit next depth w st)
        ⟨id :: state.entered, state.left⟩ = after at hgrows honce hfresh ⊢
      have hid : id ∉ after.left := by
        intro hleft
        rcases hfresh id hleft with hleft | hentered
        · exact hnew (hstate.entered hleft)
        · exact hentered List.mem_cons_self
      refine ⟨⟨?_, ?_⟩, fun x hx => ?_⟩
      · exact List.nodup_append.2 ⟨honce.nodup, List.nodup_singleton id,
          fun x hx y hy => by rintro rfl; exact hid (List.mem_singleton.1 hy ▸ hx)⟩
      · exact List.append_subset.2 ⟨honce.entered,
          List.cons_subset.2 ⟨hgrows.entered List.mem_cons_self, List.nil_subset _⟩⟩
      · rcases List.mem_append.1 hx with hx | hx
        · exact (hfresh x hx).imp_right fun hx hentered => hx (List.mem_cons_of_mem _ hentered)
        · exact .inr (List.mem_singleton.1 hx ▸ hnew)

end Walk

namespace Graph

/-- **The walk leaves no vertex twice.** -/
theorem nodup_leavingOrder (adjacency : List (String × List String)) :
    (leavingOrder adjacency).Nodup :=
  (Walk.once_foldl (Walk.grows_visit (successors adjacency) (adjacency.length + 1))
    (fun id _ h => Walk.once_visit (successors adjacency) (adjacency.length + 1) id h)
    (adjacency.map Prod.fst) ⟨List.nodup_nil, List.nil_subset _⟩).1.nodup

/-! ## Components in a row -/

/-- The members of a row of vertices with known reachable sets that belong to the component of a
vertex, sorted. -/
def componentIn (all : List (String × List String)) (vertex : String × List String) :
    List String :=
  ((all.filter fun other => vertex.2.contains other.1 && other.2.contains vertex.1).map
    Prod.fst).mergeSort fun a b => !decide (b < a)

section Rows

variable {graph : Graph} {all row later : List (String × List String)}
  {vertex : String × List String} {members : List String}

/-- A vertex on a cycle closes its component unless a later vertex belongs to it. -/
lemma closedCycles_cons (all later : List (String × List String))
    (vertex : String × List String) :
    closedCycles all (vertex :: later) =
      if vertex.2.contains vertex.1 && !later.any fun other =>
          vertex.2.contains other.1 && other.2.contains vertex.1 then
        componentIn all vertex :: closedCycles all later
      else closedCycles all later :=
  rfl

/-- Every component that is listed is that of a vertex of the row. -/
lemma exists_of_mem_closedCycles (h : members ∈ closedCycles all row) :
    ∃ vertex ∈ row, vertex.1 ∈ vertex.2 ∧ members = componentIn all vertex := by
  induction row with
  | nil => cases h
  | cons vertex later ih =>
    have hlater (h : members ∈ closedCycles all later) :
        ∃ other ∈ vertex :: later, other.1 ∈ other.2 ∧ members = componentIn all other := by
      obtain ⟨other, hother, hmembers⟩ := ih h
      exact ⟨other, List.mem_cons_of_mem _ hother, hmembers⟩
    rw [closedCycles_cons] at h
    split_ifs at h with hcloses
    · rcases List.mem_cons.1 h with rfl | h
      · exact ⟨vertex, List.mem_cons_self,
          List.contains_iff_mem.1 (Bool.and_eq_true_iff.1 hcloses).1, rfl⟩
      · exact hlater h
    · exact hlater h

/-- The members of a component are the vertices that reach a vertex and that it reaches. -/
lemma mem_componentIn (hall : ∀ pair ∈ all, pair.2 = reachable graph.adjacency pair.1)
    (hvertex : vertex.2 = reachable graph.adjacency vertex.1) {id : String} :
    id ∈ componentIn all vertex ↔ id ∈ all.map Prod.fst ∧ graph.Mutual vertex.1 id := by
  simp only [componentIn, List.mem_mergeSort, List.mem_map, List.mem_filter]
  constructor
  · rintro ⟨other, ⟨hother, hmutual⟩, rfl⟩
    exact ⟨⟨other, hother, rfl⟩, (mutual_iff_contains vertex other hvertex (hall _ hother)).1 hmutual⟩
  · rintro ⟨⟨other, hother, rfl⟩, hmutual⟩
    exact ⟨other, ⟨hother, (mutual_iff_contains vertex other hvertex (hall _ hother)).2 hmutual⟩, rfl⟩

/-- The members of a component rise strictly if no vertex stands twice in the row. -/
lemma sorted_componentIn (hall : (all.map Prod.fst).Nodup) (vertex : String × List String) :
    (componentIn all vertex).Pairwise (· < ·) := by
  have hsorted : (componentIn all vertex).Pairwise fun a b => (!decide (b < a)) = true := by
    refine List.pairwise_mergeSort (fun a b c hab hbc => ?_) (fun a b => ?_) _
    · simp only [Bool.not_eq_true', decide_eq_false_iff_not, String.not_lt] at hab hbc ⊢
      exact String.le_trans hab hbc
    · simp only [Bool.or_eq_true, Bool.not_eq_true', decide_eq_false_iff_not, String.not_lt]
      exact String.le_total a b
  have hnodup : (componentIn all vertex).Nodup :=
    (List.mergeSort_perm _ _).nodup_iff.2 (hall.sublist (List.filter_sublist.map Prod.fst))
  refine (hsorted.and hnodup).imp fun {a b} hab => ?_
  by_contra hlt
  have hba : b ≤ a := String.not_lt.1 hlt
  have hle : a ≤ b := by
    simpa only [Bool.not_eq_true', decide_eq_false_iff_not, String.not_lt] using hab.1
  exact hab.2 (String.le_antisymm hle hba)

/-- No two components that are listed share a vertex.

**Proof sketch.** Induction on the row. If the component of the first vertex shared a vertex with
that of a later one, the two would be one component, and the later vertex would keep the first one
from closing it. -/
lemma disjoint_closedCycles (hall : ∀ pair ∈ all, pair.2 = reachable graph.adjacency pair.1)
    (hrow : ∀ pair ∈ row, pair.2 = reachable graph.adjacency pair.1) :
    (closedCycles all row).Pairwise List.Disjoint := by
  induction row with
  | nil => exact .nil
  | cons vertex later ih =>
    obtain ⟨hvertex, hlater⟩ := List.forall_mem_cons.1 hrow
    rw [closedCycles_cons]
    split_ifs with hcloses
    swap
    · exact ih hlater
    refine List.pairwise_cons.2 ⟨fun members hmembers id hid hid' => ?_, ih hlater⟩
    obtain ⟨other, hother, -, rfl⟩ := exists_of_mem_closedCycles hmembers
    have hmutual : graph.Mutual vertex.1 other.1 :=
      ((mem_componentIn hall hvertex).1 hid).2.trans
        ((mem_componentIn hall (hlater other hother)).1 hid').2.symm
    have hnone := (Bool.and_eq_true_iff.1 hcloses).2
    simp only [Bool.not_eq_true', List.any_eq_false] at hnone
    exact hnone other hother
      ((mutual_iff_contains vertex other hvertex (hlater other hother)).2 hmutual)

end Rows

/-! ## The cycles of a graph -/

/-- The vertices with what they reach, in the order in which the walk leaves them. -/
def reached (graph : Graph) : List (String × List String) :=
  (leavingOrder graph.adjacency).map fun id => (id, reachable graph.adjacency id)

lemma snd_of_mem_reached {graph : Graph} :
    ∀ pair ∈ graph.reached, pair.2 = reachable graph.adjacency pair.1 := by
  intro pair hpair
  obtain ⟨id, -, rfl⟩ := List.mem_map.1 hpair
  rfl

lemma map_fst_reached (graph : Graph) :
    graph.reached.map Prod.fst = leavingOrder graph.adjacency := by
  simp [reached, Function.comp_def]

lemma cycles_eq (graph : Graph) : graph.cycles = closedCycles graph.reached graph.reached :=
  rfl

variable {graph : Graph} {members : List String}

/-- **Every cycle that is listed is a component**: the vertices that reach a vertex on a closed path
and that it reaches. -/
theorem exists_of_mem_cycles (h : members ∈ graph.cycles) :
    ∃ id, TransGen graph.Linked id id ∧ ∀ other, other ∈ members ↔ graph.Mutual id other := by
  rw [cycles_eq] at h
  obtain ⟨vertex, hvertex, hself, rfl⟩ := exists_of_mem_closedCycles h
  have hreach := snd_of_mem_reached vertex hvertex
  refine ⟨vertex.1, mem_reachable.1 (hreach ▸ hself), fun other => ?_⟩
  rw [mem_componentIn snd_of_mem_reached hreach, map_fst_reached, and_iff_right_iff_imp]
  intro hmutual
  obtain ⟨z, -, hz⟩ := TransGen.tail'_iff.1 hmutual.1
  exact mem_leavingOrder (map_fst_adjacency graph ▸ hz.target_mem)

/-- **No two cycles that are listed share a vertex.** -/
theorem disjoint_cycles (graph : Graph) : graph.cycles.Pairwise List.Disjoint :=
  disjoint_closedCycles snd_of_mem_reached snd_of_mem_reached

/-- **The members of a cycle stand in strictly rising order.** -/
theorem sorted_of_mem_cycles (h : members ∈ graph.cycles) : members.Pairwise (· < ·) := by
  rw [cycles_eq] at h
  obtain ⟨vertex, -, -, rfl⟩ := exists_of_mem_closedCycles h
  exact sorted_componentIn (map_fst_reached graph ▸ nodup_leavingOrder _) vertex

end Graph

end DesignGraph
