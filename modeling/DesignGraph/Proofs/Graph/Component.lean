import DesignGraph.Graph.Cycle
import Mathlib.Logic.Relation
import Mathlib.Data.List.Basic
/-!
# Components of a graph

The cycles that validation lists are the strongly connected components of the sound connections:
the vertices that lie on a closed path, each together with everything that it reaches and that
reaches it.

## Main definitions

* `DesignGraph.Graph.Linked` — a sound connection leads from one vertex to another.
* `DesignGraph.Graph.Mutual` — two vertices reach each other.

## Main results

* `DesignGraph.Graph.mem_reachable` — what the search for reachable vertices finds.
* `DesignGraph.Graph.mem_leavingOrder` — the walk leaves every vertex.
* `DesignGraph.Graph.exists_cycle` — a vertex on a closed path is in the cycle of its component.
-/

set_option relaxedAutoImplicit false
set_option autoImplicit false

namespace DesignGraph

open Relation

/-! ## Search -/

namespace Reach

variable {next : String → List String}

/-- A step of a search that stays in a domain. -/
def StepIn (next : String → List String) (domain : List String) (u v : String) : Prop :=
  v ∈ next u ∧ v ∈ domain

/-- What is found is reached from what was pending. -/
lemma exists_of_mem_gather {steps : Nat} {remaining pending : List String} {y : String}
    (h : y ∈ gather next steps remaining pending) :
    ∃ x ∈ pending, ReflTransGen (fun u v => v ∈ next u) x y := by
  induction steps generalizing remaining pending with
  | zero => simp [gather] at h
  | succ steps ih =>
    rw [gather] at h
    split at h
    case h_1 => simp at h
    case h_2 found hfound =>
      have hpending : found ∈ pending := List.mem_of_find?_eq_some hfound
      rcases List.mem_cons.1 h with rfl | h
      · exact ⟨y, hpending, .refl⟩
      · obtain ⟨x, hx, hxy⟩ := ih h
        rcases List.mem_append.1 hx with hx | hx
        · exact ⟨found, hpending, .head hx hxy⟩
        · exact ⟨x, hx, hxy⟩

/-- A path to another vertex than `found` avoids `found`, or does so from a successor of `found`
on.

**Proof sketch.** Induction on the path from its end: a step that leaves `found` starts anew at its
target, every other step is kept. -/
lemma avoid_found {found x y : String} {domain : List String} (hx : x ∈ domain)
    (h : ReflTransGen (StepIn next domain) x y) (hy : y ≠ found) :
    ∃ x', (x' = x ∨ x' ∈ next found) ∧ x' ∈ domain.erase found ∧
      ReflTransGen (StepIn next (domain.erase found)) x' y := by
  induction h with
  | refl => exact ⟨x, .inl rfl, (List.mem_erase_of_ne hy).2 hx, .refl⟩
  | @tail u v _ hstep ih =>
    have hv : v ∈ domain.erase found := (List.mem_erase_of_ne hy).2 hstep.2
    by_cases hu : u = found
    · exact ⟨v, .inr (hu ▸ hstep.1), hv, .refl⟩
    · obtain ⟨x', hx', hmem, hpath⟩ := ih hu
      exact ⟨x', hx', hmem, hpath.tail ⟨hstep.1, hv⟩⟩

/-- Everything that can be reached inside the remaining vertices is found, given as many steps as
there are such vertices. -/
lemma mem_gather {steps : Nat} {remaining pending : List String} {x y : String}
    (hs : remaining.length ≤ steps) (hx : x ∈ pending) (hr : x ∈ remaining)
    (h : ReflTransGen (StepIn next remaining) x y) : y ∈ gather next steps remaining pending := by
  induction steps generalizing remaining pending x with
  | zero =>
    have := List.length_pos_of_mem hr
    omega
  | succ steps ih =>
    rw [gather]
    split
    case h_1 hnone =>
      have := List.find?_eq_none.1 hnone x hx
      simp [hr] at this
    case h_2 found hfound =>
      have hmem : found ∈ remaining := by simpa using List.find?_some hfound
      by_cases hy : y = found
      · exact List.mem_cons.2 (.inl hy)
      · obtain ⟨x', hx', hmem', hpath⟩ := avoid_found hr h hy
        have hlen := List.length_erase_of_mem hmem
        refine List.mem_cons_of_mem _ (ih (by omega) (List.mem_append.2 ?_) hmem' hpath)
        rcases hx' with rfl | hx'
        · exact .inr hx
        · exact .inl hx'

end Reach

/-! ## Walks -/

namespace Walk

/-- The walk has gone on: nothing that was done is undone, and what it newly entered it left. -/
structure Grows (before after : State) : Prop where
  entered : before.entered ⊆ after.entered
  left : before.left ⊆ after.left
  settled : ∀ id ∈ after.entered, id ∈ before.entered ∨ id ∈ after.left

lemma Grows.refl (state : State) : Grows state state :=
  ⟨fun _ h => h, fun _ h => h, fun _ h => .inl h⟩

lemma Grows.trans {a b c : State} (h : Grows a b) (h' : Grows b c) : Grows a c := by
  refine ⟨fun _ hx => h'.entered (h.entered hx), fun _ hx => h'.left (h.left hx), fun id hid => ?_⟩
  rcases h'.settled id hid with hid | hid
  · exact (h.settled id hid).imp_right fun hl => h'.left hl
  · exact .inr hid

/-- A walk along a list goes on if every one of its visits does. -/
lemma grows_foldl {visit : String → State → State} (h : ∀ id state, Grows state (visit id state))
    (ids : List String) (state : State) :
    Grows state (ids.foldl (fun st id => visit id st) state) := by
  induction ids generalizing state with
  | nil => exact .refl state
  | cons id rest ih => exact (h id state).trans (ih _)

/-- A visit goes on with the walk, whatever depth it has. -/
lemma grows_visit (next : String → List String) (depth : Nat) (id : String) (state : State) :
    Grows state (visit next depth id state) := by
  induction depth generalizing id state with
  | zero => exact .refl state
  | succ depth ih =>
    rw [visit]
    split
    · exact .refl state
    · have h := grows_foldl (fun w st => ih w st) (next id) ⟨id :: state.entered, state.left⟩
      refine ⟨fun x hx => h.entered (List.mem_cons_of_mem _ hx),
        fun x hx => List.mem_append_left _ (h.left hx), fun x hx => ?_⟩
      rcases h.settled x hx with hx | hx
      · rcases List.mem_cons.1 hx with rfl | hx
        · exact .inr (by simp)
        · exact .inl hx
      · exact .inr (List.mem_append_left _ hx)

/-- A visit that has any depth enters its vertex. -/
lemma mem_entered_visit (next : String → List String) (depth : Nat) (id : String)
    (state : State) : id ∈ (visit next (depth + 1) id state).entered := by
  rw [visit]
  split
  case isTrue h => simpa using h
  case isFalse =>
    exact (grows_foldl (grows_visit next depth) _ _).entered List.mem_cons_self

/-- A walk along a list enters every member of the list. -/
lemma mem_entered_foldl (next : String → List String) (depth : Nat) {ids : List String}
    {id : String} (h : id ∈ ids) (state : State) :
    id ∈ (ids.foldl (fun st w => visit next (depth + 1) w st) state).entered := by
  induction ids generalizing state with
  | nil => simp at h
  | cons w rest ih =>
    rcases List.mem_cons.1 h with rfl | h
    · exact (grows_foldl (grows_visit next (depth + 1)) rest _).entered
        (mem_entered_visit next depth id state)
    · exact ih h _

end Walk

/-! ## Lists of names -/

/-- Naming every member once keeps the names. -/
lemma mem_map_distinctBy {α : Type} (name : α → String) (l : List α) (x : String) :
    x ∈ (distinctBy name l).map name ↔ x ∈ l.map name := by
  induction l with
  | nil => simp [distinctBy]
  | cons a rest ih =>
    simp only [List.mem_map] at ih
    simp only [distinctBy, List.map_cons, List.mem_cons, List.mem_map, List.mem_filter, bne_iff_ne]
    constructor
    · rintro (rfl | ⟨b, ⟨hb, -⟩, rfl⟩)
      · exact .inl rfl
      · exact .inr (ih.1 ⟨b, hb, rfl⟩)
    · rintro (rfl | hx)
      · exact .inl rfl
      · obtain ⟨b, hb, rfl⟩ := ih.2 hx
        by_cases hba : name b = name a
        · exact .inl hba
        · exact .inr ⟨b, ⟨hb, hba⟩, rfl⟩

/-- What a vertex is paired with in a list made from vertices. -/
lemma lookup_map_pair {α : Type} (f : String → α) {l : List String} {x : String} (h : x ∈ l) :
    (l.map fun v => (v, f v)).lookup x = some (f x) := by
  induction l with
  | nil => simp at h
  | cons v rest ih =>
    rw [List.map_cons, List.lookup_cons]
    by_cases hv : x = v
    · simp [hv]
    · have hr : x ∈ rest := (List.mem_cons.1 h).resolve_left hv
      simpa [beq_false_of_ne hv] using ih hr

/-- The vertices that wires lead to from a vertex. -/
lemma Wire.mem_targetsOf {wires : List (Wire String)} {u v : String} :
    v ∈ Wire.targetsOf wires u ↔ ∃ w ∈ wires, w.source = u ∧ w.target = v := by
  rw [Wire.targetsOf, ← List.map_id (distinctBy id _), mem_map_distinctBy id]
  simp only [List.map_id, List.mem_map, List.mem_filter, beq_iff_eq, and_assoc]

namespace Graph

/-- **The walk leaves every vertex**: it enters each of them, and at its end it has left what it
entered. -/
lemma mem_leavingOrder {adjacency : List (String × List String)} {id : String}
    (h : id ∈ adjacency.map Prod.fst) : id ∈ leavingOrder adjacency := by
  have hgrows := Walk.grows_foldl (Walk.grows_visit (successors adjacency) (adjacency.length + 1))
    (adjacency.map Prod.fst) ⟨[], []⟩
  rcases hgrows.settled id (Walk.mem_entered_foldl _ _ h _) with h | h
  · simp at h
  · exact h

/-! ## Vertices and links -/

/-- The vertices are the ids that address a node. -/
lemma mem_vertices {graph : Graph} {id : String} :
    id ∈ graph.vertices ↔ (graph.node? id).isSome := by
  rw [vertices, mem_map_distinctBy Node.id]
  simp [node?]

/-- Some connection between existing nodes leads from `u` to `v`. -/
def Linked (graph : Graph) (u v : String) : Prop :=
  ∃ c ∈ graph.sound, c.source = u ∧ c.target = v

lemma Linked.source_mem {graph : Graph} {u v : String} (h : graph.Linked u v) :
    u ∈ graph.vertices := by
  obtain ⟨c, hc, rfl, -⟩ := h
  have := (List.mem_filter.1 hc).2
  simp only [Wire.joins, Bool.and_eq_true, List.contains_iff_mem] at this
  exact this.1

lemma Linked.target_mem {graph : Graph} {u v : String} (h : graph.Linked u v) :
    v ∈ graph.vertices := by
  obtain ⟨c, hc, -, rfl⟩ := h
  have := (List.mem_filter.1 hc).2
  simp only [Wire.joins, Bool.and_eq_true, List.contains_iff_mem] at this
  exact this.2

/-- The successors of a vertex are what it is linked to. -/
lemma mem_successors {graph : Graph} {u v : String} :
    v ∈ successors graph.adjacency u ↔ graph.Linked u v := by
  by_cases hu : u ∈ graph.vertices
  · rw [successors, adjacency, Wire.adjacency, lookup_map_pair _ hu]
    exact Wire.mem_targetsOf
  · have hnone : (graph.adjacency).lookup u = none := by
      simp only [adjacency, Wire.adjacency, List.lookup_eq_none_iff, List.mem_map,
        forall_exists_index, and_imp, bne_iff_ne]
      rintro _ w hw rfl rfl
      exact hu hw
    simp only [successors, hnone, Option.getD_none, List.not_mem_nil, false_iff]
    exact fun h => hu h.source_mem

lemma map_fst_adjacency (graph : Graph) : graph.adjacency.map Prod.fst = graph.vertices := by
  simp [adjacency, Wire.adjacency, Function.comp_def]

/-- **The search finds the vertices that a nonempty path leads to.** -/
theorem mem_reachable {graph : Graph} {u v : String} :
    v ∈ reachable graph.adjacency u ↔ TransGen graph.Linked u v := by
  have hlinked : (fun a b => b ∈ successors graph.adjacency a) = graph.Linked := by
    funext a b
    exact propext mem_successors
  constructor
  · intro h
    obtain ⟨x, hx, hxv⟩ := Reach.exists_of_mem_gather h
    rw [hlinked] at hxv
    exact .head' (mem_successors.1 hx) hxv
  · intro h
    obtain ⟨x, hx, hxv⟩ := TransGen.head'_iff.1 h
    have hstep : ReflTransGen (Reach.StepIn (successors graph.adjacency) graph.vertices) x v :=
      ReflTransGen.mono (fun _ _ hab => ⟨mem_successors.2 hab, hab.target_mem⟩) _ _ hxv
    rw [reachable, map_fst_adjacency]
    refine Reach.mem_gather ?_ (mem_successors.2 hx) hx.target_mem hstep
    simp [← map_fst_adjacency]

/-! ## Cycles -/

/-- Two vertices reach each other along nonempty paths. -/
def Mutual (graph : Graph) (u v : String) : Prop :=
  TransGen graph.Linked u v ∧ TransGen graph.Linked v u

lemma Mutual.symm {graph : Graph} {u v : String} (h : graph.Mutual u v) : graph.Mutual v u :=
  ⟨h.2, h.1⟩

lemma Mutual.trans {graph : Graph} {u v w : String} (h : graph.Mutual u v)
    (h' : graph.Mutual v w) : graph.Mutual u w :=
  ⟨h.1.trans h'.1, h'.2.trans h.2⟩

/-- Two vertices reach each other exactly if each is among what the other one is known to reach. -/
lemma mutual_iff_contains {graph : Graph} (a b : String × List String)
    (ha : a.2 = reachable graph.adjacency a.1) (hb : b.2 = reachable graph.adjacency b.1) :
    (a.2.contains b.1 && b.2.contains a.1) = true ↔ graph.Mutual a.1 b.1 := by
  simp only [ha, hb, Bool.and_eq_true, List.contains_iff_mem, mem_reachable, Mutual]

/-- A vertex on a closed path, in a row of vertices with what they reach, has its component closed
in that row: at the last member that stands there.

**Proof sketch.** Induction on the row. If a later vertex belongs to the component, the component
is closed later; otherwise the first vertex closes it. -/
lemma exists_mem_closedCycles {graph : Graph} (all row : List (String × List String))
    (hall : ∀ pair ∈ all, pair.2 = reachable graph.adjacency pair.1)
    (hrow : ∀ pair ∈ row, pair.2 = reachable graph.adjacency pair.1) {x : String}
    (hx : x ∈ row.map Prod.fst) (hcycle : graph.Mutual x x) :
    ∃ c ∈ closedCycles all row, ∀ y, y ∈ c ↔ y ∈ all.map Prod.fst ∧ graph.Mutual x y := by
  induction row generalizing x with
  | nil => simp at hx
  | cons head later ih =>
    obtain ⟨id, targets⟩ := head
    have hhead := hrow _ List.mem_cons_self
    have hlater : ∀ pair ∈ later, pair.2 = reachable graph.adjacency pair.1 :=
      fun pair hp => hrow pair (List.mem_cons_of_mem _ hp)
    have hlift {y : String} (hy : y ∈ later.map Prod.fst) (hxy : graph.Mutual x y) :
        ∃ c ∈ closedCycles all ((id, targets) :: later),
          ∀ z, z ∈ c ↔ z ∈ all.map Prod.fst ∧ graph.Mutual x z := by
      obtain ⟨c, hc, hmem⟩ := ih hlater hy (hxy.symm.trans hxy)
      refine ⟨c, ?_, fun z => (hmem z).trans (and_congr_right fun _ => ⟨hxy.trans, hxy.symm.trans⟩)⟩
      simp only [closedCycles]
      split
      · exact List.mem_cons_of_mem _ hc
      · exact hc
    rcases List.mem_cons.1 hx with rfl | hx
    swap
    · exact hlift hx hcycle
    by_cases hany : later.any fun other => targets.contains other.1 && other.2.contains x
    · obtain ⟨other, hother, hm⟩ := List.any_eq_true.1 hany
      exact hlift (List.mem_map_of_mem hother)
        ((mutual_iff_contains (x, targets) other hhead (hlater other hother)).1 hm)
    · have hself : x ∈ targets := by
        rw [show targets = reachable graph.adjacency x from hhead]
        exact mem_reachable.2 hcycle.1
      refine ⟨((all.filter fun other => targets.contains other.1 && other.2.contains x).map
        Prod.fst).mergeSort (fun a b => !decide (b < a)), ?_, fun y => ?_⟩
      · rw [closedCycles, if_pos (by simpa [hself] using hany)]
        exact List.mem_cons_self
      · simp only [List.mem_mergeSort, List.mem_map, List.mem_filter]
        constructor
        · rintro ⟨other, ⟨hother, hm⟩, rfl⟩
          exact ⟨⟨other, hother, rfl⟩,
            (mutual_iff_contains (x, targets) other hhead (hall other hother)).1 hm⟩
        · rintro ⟨⟨other, hother, rfl⟩, hm⟩
          exact ⟨other,
            ⟨hother, (mutual_iff_contains (x, targets) other hhead (hall other hother)).2 hm⟩, rfl⟩

/-- **A vertex on a closed path is in a cycle of the graph**, together with exactly the vertices
that it reaches and that reach it. -/
theorem exists_cycle {graph : Graph} {x : String} (h : TransGen graph.Linked x x) :
    ∃ c ∈ graph.cycles, ∀ y, y ∈ c ↔ graph.Mutual x y := by
  have hleft {y : String} (hy : TransGen graph.Linked x y) :
      y ∈ leavingOrder graph.adjacency := by
    obtain ⟨z, -, hz⟩ := TransGen.tail'_iff.1 hy
    exact mem_leavingOrder (map_fst_adjacency graph ▸ hz.target_mem)
  set reach := (leavingOrder graph.adjacency).map fun id => (id, reachable graph.adjacency id)
    with hreach
  have hpairs : ∀ pair ∈ reach, pair.2 = reachable graph.adjacency pair.1 := by
    intro pair hp
    obtain ⟨id, -, rfl⟩ := List.mem_map.1 hp
    rfl
  have hmem {y : String} (hy : y ∈ leavingOrder graph.adjacency) : y ∈ reach.map Prod.fst :=
    List.mem_map.2 ⟨_, List.mem_map_of_mem hy, rfl⟩
  obtain ⟨c, hc, hiff⟩ := exists_mem_closedCycles reach reach hpairs hpairs (hmem (hleft h)) ⟨h, h⟩
  exact ⟨c, hc, fun y => (hiff y).trans ⟨fun hy => hy.2, fun hy => ⟨hmem (hleft hy.1), hy⟩⟩⟩

end Graph

end DesignGraph
