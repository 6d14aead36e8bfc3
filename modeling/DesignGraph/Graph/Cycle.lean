import DesignGraph.Graph.Structure
/-!
# Cycles

Two vertices belong to the same cycle when each can be reached from the other along links. The
cycles of a graph are the classes of this relation; each is listed at the point where a
depth-first walk, which starts at the vertices in order and follows the links in order, leaves
the last of its members.

## Main definitions

* `DesignGraph.Reach.gather` — the vertices that can be reached from given ones.
* `DesignGraph.Graph.reachable` — the vertices that a nonempty path leads to.
* `DesignGraph.Walk.visit`, `DesignGraph.Graph.leavingOrder` — the depth-first walk.
* `DesignGraph.Graph.cycles` — the members of every cycle, sorted.
-/

namespace DesignGraph

namespace Reach

/-- The members of `remaining` that can be reached from `pending` by way of such members; each
step takes a found member out of `remaining`, so that `remaining.length` steps suffice. -/
def gather (next : String → List String) : Nat → List String → List String → List String
  | 0, _, _ => []
  | steps + 1, remaining, pending =>
    match pending.find? remaining.contains with
    | none => []
    | some found => found :: gather next steps (remaining.erase found) (next found ++ pending)

end Reach

namespace Walk

/-- What a depth-first walk has done so far: the vertices it entered, latest first, and those it
left, in order. -/
structure State where
  entered : List String
  left : List String

/-- Walks everything that can be reached from `vertex` and was not entered before, unless
`depth` is used up. -/
def visit (next : String → List String) : Nat → String → State → State
  | 0, _, state => state
  | depth + 1, vertex, state =>
    if state.entered.contains vertex then state
    else
      let after := (next vertex).foldl (fun st w => visit next depth w st)
        ⟨vertex :: state.entered, state.left⟩
      ⟨after.entered, after.left ++ [vertex]⟩

end Walk

namespace Graph

/-- Where the links of a vertex lead, read off an adjacency list. -/
def successors (adjacency : List (String × List String)) (id : String) : List String :=
  (adjacency.lookup id).getD []

/-- The vertices that a nonempty path of links leads to. -/
def reachable (adjacency : List (String × List String)) (id : String) : List String :=
  Reach.gather (successors adjacency) adjacency.length (adjacency.map Prod.fst)
    (successors adjacency id)

/-- The vertices in the order in which a depth-first walk leaves them. -/
def leavingOrder (adjacency : List (String × List String)) : List String :=
  ((adjacency.map Prod.fst).foldl
    (fun st id => Walk.visit (successors adjacency) (adjacency.length + 1) id st) ⟨[], []⟩).left

/-- The cycles that end in a row of vertices with known reachable sets: a vertex closes the cycle
of all vertices that it reaches and that reach it, unless one of them comes later. -/
def closedCycles (reach : List (String × List String)) : List (String × List String) →
    List (List String)
  | [] => []
  | (id, targets) :: later =>
    let mutually (other : String × List String) : Bool :=
      targets.contains other.1 && other.2.contains id
    let rest := closedCycles reach later
    if targets.contains id && !later.any mutually then
      ((reach.filter mutually).map Prod.fst).mergeSort (fun a b => !decide (b < a)) :: rest
    else rest

/-- The members of every cycle, sorted. -/
def cycles (graph : Graph) : List (List String) :=
  let adjacency := graph.adjacency
  let reach := (leavingOrder adjacency).map fun id => (id, reachable adjacency id)
  closedCycles reach reach

end Graph

end DesignGraph
