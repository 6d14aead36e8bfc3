import DesignGraph.Evaluation
import DesignGraph.Proofs.Operation.Requests
import Mathlib.Data.List.Dedup
import Mathlib.Data.List.Perm.Subperm
/-!
# The course of an evaluation

`Evaluation.value` counts down a depth, so that it ends on every graph. The rules of this module
say what it does without a count: which answer a request gets, and how a program goes on from one
request to the next. The depth with which an evaluation starts is never used up, since the running
programs belong to distinct nodes of the graph; so the rules describe every evaluation, and what
holds of evaluations is proved by induction on them.

## Main definitions

* `DesignGraph.Evaluation.Job` — what an evaluation is about to do.
* `DesignGraph.Evaluation.Runs` — the rules.
* `DesignGraph.Evaluation.effect` — what requests that look at no other node do.
* `DesignGraph.Evaluation.Reached` — what can have come of requests from outside.
* `DesignGraph.Evaluation.Asked` — a row of successful requests from outside.
* `DesignGraph.Evaluation.FeedsDisplay` — what is asked for to display a graph.

## Main results

* `DesignGraph.Evaluation.signal_runs` — every request from outside follows the rules.
* `DesignGraph.Evaluation.Reached.induct` — what each request from outside keeps holds
  throughout.
* `DesignGraph.Evaluation.run_asked` — a whole evaluation is a row of requests.
-/

set_option relaxedAutoImplicit false
set_option autoImplicit false

namespace DesignGraph

namespace Evaluation

variable {σ : Type}

/-- What an evaluation is about to do. -/
inductive Job where
  /-- To meet a request for the value of a node. -/
  | value (id : String)
  /-- To go on with the program of a node. -/
  | rest (node : Node) (program : Program Outcome)

/-- A request that is met without looking at another node: anything but reading a wired
socket. -/
def IsLocal (graph : Graph) (node : Node) (request : Request) : Prop :=
  ∀ socket, request = .read socket → graph.source? node.id socket = none

/-- A local request reads no wired socket. -/
lemma IsLocal.not_wired {graph : Graph} {node : Node} {socket source : String}
    (hl : IsLocal graph node (.read socket)) : graph.source? node.id socket ≠ some source := by
  rw [hl socket rfl]
  exact nofun

/-- A request is local, or it reads a wired socket. -/
lemma isLocal_or_reads (graph : Graph) (node : Node) (request : Request) :
    IsLocal graph node request ∨ ∃ socket source, request = .read socket ∧
      graph.source? node.id socket = some source := by
  by_cases hl : IsLocal graph node request
  · exact .inl hl
  · obtain ⟨socket, rfl, hs⟩ : ∃ socket, request = .read socket ∧
        graph.source? node.id socket ≠ none := by
      simpa only [IsLocal, not_forall, exists_prop] using hl
    obtain ⟨source, hs⟩ := Option.ne_none_iff_exists'.1 hs
    exact .inr ⟨socket, source, rfl, hs⟩

/-- The rules of an evaluation while the programs on `path` are running, innermost first: how a
job turns the progress made so far into a result and further progress. -/
inductive Runs (setting : Setting σ) :
    List String → Job → Progress σ → Except Fault Signal × Progress σ → Prop
  | overridden {path id p v} (hv : Fields.get? setting.overrides id = some v) :
    Runs setting path (.value id) p (.ok ⟨v, id⟩, note id path .overridden p)
  | recalled {path id p s} (ho : Fields.get? setting.overrides id = none)
    (hs : p.memo.lookup id = some s) :
    Runs setting path (.value id) p (.ok s, note id path .recalled p)
  | cut {path id p} (ho : Fields.get? setting.overrides id = none)
    (hm : p.memo.lookup id = none) (hp : id ∈ path) :
    Runs setting path (.value id) p (.ok ⟨.null, id⟩, note id path .cut p)
  | absent {path id p} (ho : Fields.get? setting.overrides id = none)
    (hm : p.memo.lookup id = none) (hp : id ∉ path) (hn : setting.graph.node? id = none) :
    Runs setting path (.value id) p (.ok ⟨.null, id⟩, note id path .absent p)
  | entered {path id p node s q} (ho : Fields.get? setting.overrides id = none)
    (hm : p.memo.lookup id = none) (hp : id ∉ path) (hn : setting.graph.node? id = some node)
    (h : Runs setting (id :: path) (.rest node node.program) (note id path .entered p) (.ok s, q)) :
    Runs setting path (.value id) p (.ok s, { q with memo := q.memo ++ [(id, s)] })
  | failed {path id p node f q} (ho : Fields.get? setting.overrides id = none)
    (hm : p.memo.lookup id = none) (hp : id ∉ path) (hn : setting.graph.node? id = some node)
    (h : Runs setting (id :: path) (.rest node node.program) (note id path .entered p)
      (.error f, q)) :
    Runs setting path (.value id) p (.error f, q)
  | done {path node p o} : Runs setting path (.rest node (.done o)) p (.ok (o.signal node.id), p)
  | fail {path node p f} : Runs setting path (.rest node (.fail f)) p (.error f, p)
  | wired {path node socket next p source s q r}
    (hs : setting.graph.source? node.id socket = some source)
    (hv : Runs setting path (.value source) p (.ok s, q))
    (h : Runs setting path (.rest node (next s)) (record ⟨node.id, .read socket, s⟩ q) r) :
    Runs setting path (.rest node (.ask (.read socket) next)) p r
  | broken {path node socket next p source f q}
    (hs : setting.graph.source? node.id socket = some source)
    (hv : Runs setting path (.value source) p (.error f, q)) :
    Runs setting path (.rest node (.ask (.read socket) next)) p (.error f, q)
  | met {path node request next p a q r} (hl : IsLocal setting.graph node request)
    (hm : ∀ read, meet setting node read request p = (.ok a, q))
    (h : Runs setting path (.rest node (next a)) (record ⟨node.id, request, a⟩ q) r) :
    Runs setting path (.rest node (.ask request next)) p r
  | refused {path node request next p f q} (hl : IsLocal setting.graph node request)
    (hm : ∀ read, meet setting node read request p = (.error f, q)) :
    Runs setting path (.rest node (.ask request next)) p (.error f, q)

/-! ## Jobs of a graph -/

/-- A job of the graph: what is left of the program of an addressed node makes the requests of the
node's kind, and comes to null if the node acts. -/
def Fits (graph : Graph) : Job → Prop
  | .value _ => True
  | .rest node program => graph.node? node.id = some node ∧
    program.Within (fun request => ∃ kind, node.kind? = some kind ∧ kind.MayAsk request)
      fun o => node.isAction = true → o = .made .null

/-- The program of an addressed node is a job of the graph. -/
lemma fits_program {graph : Graph} {id : String} {node : Node} (hn : graph.node? id = some node) :
    Fits graph (.rest node node.program) :=
  ⟨(Graph.id_of_node? hn).symm ▸ hn, node.program_within⟩

/-- What follows a request of a job is a job. -/
lemma Fits.next {graph : Graph} {node : Node} {request : Request}
    {next : request.Answer → Program Outcome} (h : Fits graph (.rest node (.ask request next)))
    (a : request.Answer) : Fits graph (.rest node (next a)) :=
  ⟨h.1, h.2.2 a⟩

/-! ## Memory -/

/-- An entry that a lookup finds is in the memory. -/
lemma mem_of_lookup {memo : List (String × Signal)} {id : String} {s : Signal}
    (h : memo.lookup id = some s) : (id, s) ∈ memo := by
  obtain ⟨l₁, l₂, rfl, -⟩ := List.lookup_eq_some_iff.1 h
  simp

/-- A lookup fails only for ids without an entry. -/
lemma not_mem_of_lookup {memo : List (String × Signal)} {id : String} (h : memo.lookup id = none)
    (s : Signal) : (id, s) ∉ memo := by
  intro hs
  simpa using List.lookup_eq_none_iff.1 h (id, s) hs

/-! ## Evaluations follow the rules -/

/-- Local requests are met alike, however other nodes would be read. -/
lemma meet_of_isLocal {setting : Setting σ} {node : Node} {request : Request}
    (hl : IsLocal setting.graph node request) (read read' : String → Step σ Signal)
    (p : Progress σ) : meet setting node read request p = meet setting node read' request p := by
  cases request with
  | read socket => simp only [meet, hl socket rfl]
  | _ => rfl

/-- What a request that looks at no other node does to the progress, whether it is granted or
refused. -/
def effect (setting : Setting σ) (node : Node) : Request → Progress σ → Progress σ
  | .sample, p => { p with drawn := p.drawn + 1 }
  | .edge v, p => { p with triggers := Fields.put node.id v p.triggers }
  | .fire action, p =>
    { p with outlet :=
        (setting.post (Event.ofAction ⟨.str node.id, setting.graph.id, .null⟩ action) p.outlet).2 }
  | _, p => p

/-- Local requests have their effect and no other one. -/
lemma eq_effect_of_meet {setting : Setting σ} {node : Node} {request : Request}
    (hl : IsLocal setting.graph node request) {p q : Progress σ} {x : Except Fault request.Answer}
    (hm : ∀ read, meet setting node read request p = (x, q)) :
    q = effect setting node request p := by
  -- no node is read, so any way of reading nodes will do
  let read : String → Step σ Signal := fun id p => (.ok ⟨.null, id⟩, p)
  suffices hsnd : (meet setting node read request p).2 = effect setting node request p by
    rwa [hm] at hsnd
  cases request with
  | read socket => simp only [meet, hl socket rfl, effect]
  | fire action =>
    rw [meet, effect]
    rcases setting.post (Event.ofAction ⟨.str node.id, setting.graph.id, .null⟩ action)
      p.outlet with ⟨_ | fault, outlet⟩ <;> rfl
  | _ => rfl

/-- A local request leaves the memory of signals, the trail and the exchanges alone. -/
lemma meet_keeps {setting : Setting σ} {node : Node} {request : Request}
    (hl : IsLocal setting.graph node request) {p q : Progress σ} {x : Except Fault request.Answer}
    (hm : ∀ read, meet setting node read request p = (x, q)) :
    q.memo = p.memo ∧ q.trail = p.trail ∧ q.exchanges = p.exchanges := by
  obtain rfl := eq_effect_of_meet hl hm
  cases request <;> exact ⟨rfl, rfl, rfl⟩

/-- The result of a program as the signal of its node. -/
def signalled (id : String) (r : Except Fault Outcome × Progress σ) :
    Except Fault Signal × Progress σ :=
  (r.1.map (Outcome.signal id), r.2)

/-- A program follows the rules if its reads do.

**Proof sketch.** Induction on the program. A request is either a read of a wired socket, which
follows the rules by assumption, or local. -/
lemma perform_runs {setting : Setting σ} {path : List String} {node : Node}
    {read : String → Step σ Signal}
    (hread : ∀ source p, Runs setting path (.value source) p (read source p))
    (program : Program Outcome) (p : Progress σ) :
    Runs setting path (.rest node program) p
      (signalled node.id (perform node.id (meet setting node read) program p)) := by
  induction program generalizing p with
  | done o => exact .done
  | fail f => exact .fail
  | ask request next ih =>
    rcases isLocal_or_reads setting.graph node request with hl | ⟨socket, source, rfl, hs⟩
    · have hm : ∀ read', meet setting node read' request p = meet setting node read request p :=
        fun read' => meet_of_isLocal hl read' read p
      simp only [perform]
      rcases hr : meet setting node read request p with ⟨_ | a, q⟩
      · exact .refused hl fun read' => (hm read').trans hr
      · exact .met hl (fun read' => (hm read').trans hr) (ih a _)
    · have hv := hread source p
      simp only [perform, meet, hs]
      rcases hr : read source p with ⟨_ | s, q⟩
      · exact .broken hs (hr ▸ hv)
      · exact .wired hs (hr ▸ hv) (ih s _)

/-- There are no more distinct ids of nodes than the graph has. -/
lemma length_le_dedup {graph : Graph} {ids : List String} (hd : ids.Nodup)
    (hn : ∀ id ∈ ids, (graph.node? id).isSome) :
    ids.length ≤ (graph.nodes.map (·.id)).dedup.length := by
  have hsub : ids ⊆ (graph.nodes.map (·.id)).dedup := by
    intro id hid
    obtain ⟨node, hnode⟩ := Option.isSome_iff_exists.1 (hn id hid)
    exact List.mem_dedup.2
      (List.mem_map.2 ⟨node, List.mem_of_find?_eq_some hnode, Graph.id_of_node? hnode⟩)
  exact (List.subperm_of_subset hd hsub).length_le

/-- A path of distinct nodes of the graph is no longer than the list of nodes. -/
lemma length_le_of_nodup {graph : Graph} {path : List String} (hd : path.Nodup)
    (hn : ∀ id ∈ path, (graph.node? id).isSome) : path.length ≤ graph.nodes.length := by
  have hids : (graph.nodes.map (·.id)).dedup.length ≤ (graph.nodes.map (·.id)).length :=
    (List.dedup_sublist _).length_le
  rw [List.length_map] at hids
  exact Nat.le_trans (length_le_dedup hd hn) hids

/-- **Values follow the rules**, on every path of distinct nodes that leaves enough depth.

**Proof sketch.** Induction on the depth. It is not zero, since the path would be longer than the
list of nodes. A node is entered only off the path, which then grows by one as the depth
shrinks. -/
lemma value_runs (setting : Setting σ) (depth : Nat) (path : List String) (id : String)
    (p : Progress σ) (hd : path.Nodup) (hn : ∀ id ∈ path, (setting.graph.node? id).isSome)
    (hl : setting.graph.nodes.length < depth + path.length) :
    Runs setting path (.value id) p (value setting depth path id p) := by
  induction depth generalizing path id p with
  | zero =>
    have := length_le_of_nodup hd hn
    omega
  | succ depth ih =>
    rcases ho : Fields.get? setting.overrides id with _ | v
    swap
    · simp only [value, ho]
      exact .overridden ho
    rcases hm : p.memo.lookup id with _ | s
    swap
    · simp only [value, ho, hm]
      exact .recalled ho hm
    by_cases hp : id ∈ path
    · simp only [value, ho, hm, List.contains_iff_mem.2 hp, if_true]
      exact .cut ho hm hp
    have hc : path.contains id = false := by simpa using hp
    rcases hnode : setting.graph.node? id with _ | node
    · simp only [value, ho, hm, hc, hnode, Bool.false_eq_true, if_false]
      exact .absent ho hm hp hnode
    have hn' : ∀ x ∈ id :: path, (setting.graph.node? x).isSome := by
      simpa [hnode] using hn
    have hread : ∀ source p, Runs setting (id :: path) (.value source) p
        (value setting depth (id :: path) source p) := by
      intro source p
      exact ih (id :: path) source p (List.nodup_cons.2 ⟨hp, hd⟩) hn'
        (by simp only [List.length_cons]; omega)
    have hbody : Runs setting (id :: path) (.rest node node.program) (note id path .entered p) _ :=
      perform_runs hread node.program (note id path .entered p)
    rw [Graph.id_of_node? hnode] at hbody
    simp only [value, ho, hm, hc, hnode, Bool.false_eq_true, if_false]
    rcases hr : perform id (meet setting node (value setting depth (id :: path))) node.program
      (note id path .entered p) with ⟨_ | o, q⟩
    · rw [hr] at hbody
      exact .failed ho hm hp hnode hbody
    · rw [hr] at hbody
      exact .entered ho hm hp hnode hbody

/-- Every request from outside follows the rules, with no program running. -/
theorem signal_runs (setting : Setting σ) (id : String) (p : Progress σ) :
    Runs setting [] (.value id) p (signal setting id p) :=
  value_runs setting _ [] id p List.nodup_nil (by simp) (by simp [depthOf])

/-- A request from outside with a known end follows the rules. -/
lemma runs_of_signal {setting : Setting σ} {id : String} {p : Progress σ}
    {r : Except Fault Signal × Progress σ} (h : signal setting id p = r) :
    Runs setting [] (.value id) p r :=
  h ▸ signal_runs setting id p

/-! ## Requests from outside -/

/-- What an evaluation can have come to: it starts with nothing remembered, and then nodes are
asked for from outside, one by one or as a whole evaluation asks for them, whether or not the
requests succeed. -/
inductive Reached (setting : Setting σ) : Progress σ → Prop
  | start (triggers : Fields) (drawn : Nat) (outlet : σ) :
    Reached setting (.start triggers drawn outlet)
  | signal {p : Progress σ} (h : Reached setting p) (id : String) :
    Reached setting (signal setting id p).2
  | run {p : Progress σ} (h : Reached setting p) : Reached setting (run setting p).2

section Requests

variable {setting : Setting σ} {P : Progress σ → Prop}

/-- What a request keeps, the action pass keeps. -/
lemma visitAll_keeps (hstep : ∀ id p, P p → P (signal setting id p).2) (nodes : List Node)
    {p : Progress σ} (hp : P p) : P (visitAll setting nodes p).2 := by
  induction nodes generalizing p with
  | nil => exact hp
  | cons node rest ih =>
    have hnode := hstep node.id p hp
    rw [visitAll]
    split
    case h_1 q heq => exact ih (by simpa [heq] using hnode)
    case h_2 f q heq => simpa [heq] using hnode

/-- What a request keeps, reading a socket of the output node keeps. -/
lemma outputSocket_keeps (hstep : ∀ id p, P p → P (signal setting id p).2) (output : Node)
    (socket : String) {p : Progress σ} (hp : P p) :
    P (outputSocket setting output socket p).2 := by
  rw [outputSocket]
  split
  case h_1 => exact hp
  case h_2 source hs =>
    have hsource := hstep source p hp
    split
    case h_1 s q heq => simpa [heq] using hsource
    case h_2 f q heq => simpa [heq] using hsource

/-- What a request keeps, reading the display keeps. -/
lemma display_keeps (hstep : ∀ id p, P p → P (signal setting id p).2) {p : Progress σ}
    (hp : P p) : P (display setting p).2 := by
  rw [display]
  split
  case h_1 => exact hp
  case h_2 output _ =>
    have hstyle := outputSocket_keeps hstep output "in-style" hp
    split
    case h_1 f q heq => simpa [heq] using hstyle
    case h_2 style q heq =>
      have hcontent := outputSocket_keeps hstep output "in-content" (p := q)
        (by simpa [heq] using hstyle)
      dsimp only
      split
      case h_1 f q' heq' => simpa [heq'] using hcontent
      case h_2 q' heq' => simpa [heq'] using hcontent
      case h_3 v q' heq' => simpa [heq'] using hcontent

/-- What a request keeps, a whole evaluation keeps. -/
lemma run_keeps (hstep : ∀ id p, P p → P (signal setting id p).2) {p : Progress σ} (hp : P p) :
    P (run setting p).2 := by
  have hall := visitAll_keeps hstep setting.graph.actions hp
  rw [run]
  split
  case h_1 q heq => exact display_keeps hstep (by simpa [heq] using hall)
  case h_2 f q heq => simpa [heq] using hall

/-- **What every request from outside keeps holds throughout.** -/
theorem Reached.induct (hstart : ∀ triggers drawn outlet, P (.start triggers drawn outlet))
    (hstep : ∀ id p r, Runs setting [] (.value id) p r → P p → P r.2) {p : Progress σ}
    (h : Reached setting p) : P p := by
  have hsignal : ∀ id p, P p → P (Evaluation.signal setting id p).2 :=
    fun id p => hstep id p _ (signal_runs setting id p)
  induction h with
  | start triggers drawn outlet => exact hstart triggers drawn outlet
  | signal _ id ih => exact hsignal id _ ih
  | run _ ih => exact run_keeps hsignal ih

end Requests

/-- Nodes are asked for one after the other, each with success. -/
inductive Asked (setting : Setting σ) : List String → Progress σ → Progress σ → Prop
  | nil {p} : Asked setting [] p p
  | cons {id ids p s q r} (hs : signal setting id p = (.ok s, q)) (h : Asked setting ids q r) :
    Asked setting (id :: ids) p r

/-- What follows a row of requests continues it. -/
lemma Asked.append {setting : Setting σ} {ids ids' : List String} {p q r : Progress σ}
    (h : Asked setting ids p q) (h' : Asked setting ids' q r) :
    Asked setting (ids ++ ids') p r := by
  induction h with
  | nil => exact h'
  | cons hs _ ih => exact .cons hs (ih h')

/-- An action pass that returns asks for its nodes in order. -/
lemma visitAll_asked {setting : Setting σ} {nodes : List Node} {p q : Progress σ}
    (h : visitAll setting nodes p = (.ok (), q)) : Asked setting (nodes.map (·.id)) p q := by
  induction nodes generalizing p with
  | nil =>
    cases h
    exact .nil
  | cons node rest ih =>
    rw [visitAll] at h
    rcases hs : signal setting node.id p with ⟨_ | s, q'⟩
    · rw [hs] at h
      cases h
    · rw [hs] at h
      exact .cons hs (ih h)

/-- A socket of the output node that is read with success is a row of requests for what feeds
it. -/
lemma outputSocket_asked {setting : Setting σ} {output : Node} {socket : String}
    {p q : Progress σ} {v : Option Value} (h : outputSocket setting output socket p = (.ok v, q)) :
    ∃ ids, Asked setting ids p q ∧ ∀ id ∈ ids, setting.graph.source? output.id socket = some id := by
  rw [outputSocket] at h
  rcases hsource : setting.graph.source? output.id socket with _ | source
  · rw [hsource] at h
    cases h
    exact ⟨[], .nil, nofun⟩
  · simp only [hsource] at h
    rcases hs : signal setting source p with ⟨_ | s, q'⟩
    · rw [hs] at h
      cases h
    · rw [hs] at h
      cases h
      exact ⟨[source], .cons hs .nil, by simp⟩

/-- A node feeds the style or the content of the first output node. -/
def FeedsDisplay (graph : Graph) (id : String) : Prop :=
  ∃ output, graph.output? = some output ∧
    (graph.source? output.id "in-style" = some id ∨ graph.source? output.id "in-content" = some id)

/-- What an output node displays is read off its two sockets, the style first. -/
lemma display_ok {setting : Setting σ} {output : Node} {p q : Progress σ} {a : Appearance}
    (hout : setting.graph.output? = some output) (h : display setting p = (.ok a, q)) :
    ∃ style content p', outputSocket setting output "in-style" p = (.ok style, p') ∧
      outputSocket setting output "in-content" p' = (.ok content, q) ∧
      a.style = (style.map Value.fields).getD [] ∧ content.mapM contentText = .ok a.content := by
  simp only [display, hout] at h
  rcases hstyle : outputSocket setting output "in-style" p with ⟨_ | style, p'⟩
  · simp only [hstyle] at h
    cases h
  simp only [hstyle] at h
  refine ⟨style, ?_⟩
  rcases hcontent : outputSocket setting output "in-content" p' with ⟨_ | _ | v, q'⟩
  · simp only [hcontent] at h
    cases h
  · simp only [hcontent] at h
    cases h
    exact ⟨none, p', rfl, hcontent, rfl, rfl⟩
  · simp only [hcontent] at h
    refine ⟨some v, p', rfl, ?_⟩
    rcases htext : contentText v with _ | text
    · rw [htext] at h
      cases h
    · rw [htext] at h
      cases h
      exact ⟨hcontent, rfl, by rw [Option.mapM_some, htext]; rfl⟩

/-- A whole evaluation that returns has passed its actions and displays what it gives. -/
lemma run_ok {setting : Setting σ} {p q : Progress σ} {a : Appearance}
    (h : run setting p = (.ok a, q)) :
    ∃ p', visitAll setting setting.graph.actions p = (.ok (), p') ∧
      display setting p' = (.ok a, q) := by
  rw [run] at h
  rcases hall : visitAll setting setting.graph.actions p with ⟨_ | u, p'⟩
  · rw [hall] at h
    cases h
  · rw [hall] at h
    exact ⟨p', rfl, h⟩

/-- A display that returns is a row of requests for what feeds the output node. -/
lemma display_asked {setting : Setting σ} {p q : Progress σ} {a : Appearance}
    (h : display setting p = (.ok a, q)) :
    ∃ ids, Asked setting ids p q ∧ ∀ id ∈ ids, FeedsDisplay setting.graph id := by
  rcases hout : setting.graph.output? with _ | output
  · rw [display, hout] at h
    cases h
    exact ⟨[], .nil, nofun⟩
  obtain ⟨style, content, p', hstyle, hcontent, -⟩ := display_ok hout h
  obtain ⟨ids, hids, hfeeds⟩ := outputSocket_asked hstyle
  obtain ⟨ids', hids', hfeeds'⟩ := outputSocket_asked hcontent
  refine ⟨ids ++ ids', hids.append hids', fun id hid => ⟨output, hout, ?_⟩⟩
  exact (List.mem_append.1 hid).imp (hfeeds id) (hfeeds' id)

/-- **A whole evaluation that returns is a row of requests**, those for the actions first, then
those for what feeds the output node. -/
lemma run_asked {setting : Setting σ} {p q : Progress σ} {a : Appearance}
    (h : run setting p = (.ok a, q)) :
    ∃ ids, Asked setting (setting.graph.actions.map (·.id) ++ ids) p q ∧
      ∀ id ∈ ids, FeedsDisplay setting.graph id := by
  obtain ⟨p', hall, hdisplay⟩ := run_ok h
  obtain ⟨ids, hids, hfeeds⟩ := display_asked hdisplay
  exact ⟨ids, (visitAll_asked hall).append hids, hfeeds⟩

/-- A graph as it is looked at on its own: nothing is overridden, every sample is one half, and
nobody hears of actions. -/
def Setting.alone (graph : Graph) : Setting Unit :=
  ⟨graph, [], .initial, fun _ => 0.5, fun _ outlet => (none, outlet)⟩

end Evaluation

end DesignGraph
