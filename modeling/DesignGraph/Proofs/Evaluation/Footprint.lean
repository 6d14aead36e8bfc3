import DesignGraph.Proofs.Evaluation.Action
/-!
# What an evaluation depends on

An evaluation sees of its setting only what it asks for. Its trail lists the nodes that were asked
for and its exchanges what their programs asked; a setting that answers all of this alike gives the
same evaluation, down to the last sample and event. So nothing else has any influence: neither what
lies before an overridden node, nor a branch that was not taken, nor a second connection to a
socket.

## Main definitions

* `DesignGraph.Evaluation.AgreesOnVisited` — a setting that is the same at the nodes that an
  evaluation has asked for.
* `DesignGraph.Evaluation.AgreesOnAsked` — a setting that is the same in what the programs of these
  nodes have asked.
* `DesignGraph.Evaluation.ReadBy`, `DesignGraph.Evaluation.Called` — the reasons for which a node is
  asked for.
* `DesignGraph.Kind.guard?` — sockets that are read only after another one.

## Main results

* `DesignGraph.Evaluation.Runs.unique` — the rules of an evaluation leave no choice.
* `DesignGraph.Evaluation.Runs.transfer` — a setting that agrees follows the same course.
* `DesignGraph.Evaluation.run_depends_on_visited` — an evaluation depends only on what it asked
  for.
-/

set_option relaxedAutoImplicit false
set_option autoImplicit false

namespace DesignGraph

/-- The socket that decides whether a socket of a node of this kind is read, and the truth value
with which it is read. -/
def Kind.guard? : Kind → String → Option (String × Bool)
  | .and, "in-b" => some ("in-a", true)
  | .or, "in-b" => some ("in-a", false)
  | .ifElse, "in-true" => some ("in-condition", true)
  | .ifElse, "in-false" => some ("in-condition", false)
  | _, _ => none

/-- What feeds the style and the content of the first output node, if there is one. -/
def Graph.shownSources (graph : Graph) : Option (Option String × Option String) :=
  graph.output?.map fun output =>
    (graph.source? output.id "in-style", graph.source? output.id "in-content")

namespace Evaluation

variable {σ : Type}

/-! ## Agreement -/

/-- Settings that agree in what every evaluation looks at: the library id of the graph, the ids of
the nodes that act, what feeds the output, the samples and the outlet. -/
structure Comparable (setting setting' : Setting σ) : Prop where
  id : setting'.graph.id = setting.graph.id
  actions : setting'.graph.actions.map (·.id) = setting.graph.actions.map (·.id)
  shown : setting'.graph.shownSources = setting.graph.shownSources
  samples : setting'.samples = setting.samples
  post : setting'.post = setting.post

/-- An evaluation has asked for a node of the given kind that is not overridden. -/
def Visited (setting : Setting σ) (q : Progress σ) (kind : Kind) : Prop :=
  ∃ visit ∈ q.trail, Fields.get? setting.overrides visit.id = none ∧
    (setting.graph.node? visit.id).bind Node.kind? = some kind

/-- A setting that is the same as another one at all nodes that an evaluation has asked for: the
same overrides, and of nodes that are not overridden the same node, fed by the same sources; the
context is the same where a visited node shows it. -/
structure AgreesOnVisited (setting setting' : Setting σ) (q : Progress σ) : Prop
    extends Comparable setting setting' where
  overrides : ∀ visit ∈ q.trail,
    Fields.get? setting'.overrides visit.id = Fields.get? setting.overrides visit.id
  nodes : ∀ visit ∈ q.trail, Fields.get? setting.overrides visit.id = none →
    setting'.graph.node? visit.id = setting.graph.node? visit.id
  sources : ∀ visit ∈ q.trail, Fields.get? setting.overrides visit.id = none →
    ∀ socket, setting'.graph.source? visit.id socket = setting.graph.source? visit.id socket
  hovered : Visited setting q .hover → setting'.context.hovered = setting.context.hovered
  clicked : Visited setting q .click → setting'.context.clicked = setting.context.clicked
  time : Visited setting q .timer → setting'.context.time = setting.context.time

/-- A request of the program of a node looks at the same part of two settings. -/
def SameAnswer (setting setting' : Setting σ) (node : String) : Request → Prop
  | .read socket => setting'.graph.source? node socket = setting.graph.source? node socket
  | .isWired socket => setting'.graph.isWired node socket = setting.graph.isWired node socket
  | .hovered => setting'.context.hovered = setting.context.hovered
  | .clicked => setting'.context.clicked = setting.context.clicked
  | .time => setting'.context.time = setting.context.time
  | .sample | .edge _ | .fire _ => True

instance (setting setting' : Setting σ) (node : String) :
    (request : Request) → Decidable (SameAnswer setting setting' node request)
  | .read _ | .isWired _ | .hovered | .clicked | .time => decEq _ _
  | .sample | .edge _ | .fire _ => isTrue trivial

/-- A setting that is the same as another one in all that an evaluation has asked: at overridden
nodes the override, at others the node and what its program has asked. A socket that was not read
may be wired in any way. -/
structure AgreesOnAsked (setting setting' : Setting σ) (q : Progress σ) : Prop
    extends Comparable setting setting' where
  overrides : ∀ visit ∈ q.trail,
    Fields.get? setting'.overrides visit.id = Fields.get? setting.overrides visit.id
  nodes : ∀ visit ∈ q.trail, Fields.get? setting.overrides visit.id = none →
    setting'.graph.node? visit.id = setting.graph.node? visit.id
  requests : ∀ exchange ∈ q.exchanges,
    SameAnswer setting setting' exchange.node exchange.request

/-! ## Growth -/

/-- All that was asked before was asked. -/
structure Extends (p q : Progress σ) : Prop where
  trail : p.trail ⊆ q.trail
  exchanges : p.exchanges ⊆ q.exchanges

section Growth

variable {setting : Setting σ} {path : List String} {job : Job} {p q : Progress σ}
  {r : Except Fault Signal × Progress σ}

lemma Extends.refl (p : Progress σ) : Extends p p :=
  ⟨List.Subset.refl _, List.Subset.refl _⟩

lemma Extends.trans {p q r : Progress σ} (h : Extends p q) (h' : Extends q r) : Extends p r :=
  ⟨List.Subset.trans h.trail h'.trail, List.Subset.trans h.exchanges h'.exchanges⟩

lemma extends_note (id : String) (path : List String) (answer : Answer) (p : Progress σ) :
    Extends p (note id path answer p) :=
  ⟨List.subset_append_left _ _, List.Subset.refl _⟩

lemma extends_record (exchange : Exchange) (p : Progress σ) : Extends p (record exchange p) :=
  ⟨List.Subset.refl _, List.subset_append_left _ _⟩

/-- A local request asks for no node. -/
lemma extends_of_meet {node : Node} {request : Request} {x : Except Fault request.Answer}
    (hl : IsLocal setting.graph node request)
    (hm : ∀ read, meet setting node read request p = (x, q)) : Extends p q := by
  obtain ⟨-, htrail, hexchanges⟩ := meet_keeps hl hm
  exact ⟨htrail ▸ List.Subset.refl _, hexchanges ▸ List.Subset.refl _⟩

/-- Trail and exchanges only grow. -/
lemma Runs.extends (h : Runs setting path job p r) : Extends p r.2 := by
  induction h with
  | overridden | recalled | cut | absent => exact extends_note _ _ _ _
  | entered _ _ _ _ _ ih =>
    have hall := (extends_note _ _ _ _).trans ih
    exact ⟨hall.trail, hall.exchanges⟩
  | failed _ _ _ _ _ ih => exact (extends_note _ _ _ _).trans ih
  | done | fail => exact .refl _
  | wired _ _ _ ihv ih => exact (ihv.trans (extends_record _ _)).trans ih
  | broken _ _ ihv => exact ihv
  | met hl hm _ ih => exact ((extends_of_meet hl hm).trans (extends_record _ _)).trans ih
  | refused hl hm => exact extends_of_meet hl hm

/-- A row of requests adds to what was asked. -/
lemma Asked.extends {ids : List String} (h : Asked setting ids p q) : Extends p q := by
  induction h with
  | nil => exact .refl _
  | cons hs _ ih => exact (runs_of_signal hs).extends.trans ih

end Growth

/-! ## Determinism -/

/-- **The rules of an evaluation leave no choice.** -/
theorem Runs.unique {setting : Setting σ} {path : List String} {job : Job} {p : Progress σ}
    {r r' : Except Fault Signal × Progress σ} (h : Runs setting path job p r)
    (h' : Runs setting path job p r') : r' = r := by
  induction h generalizing r' with
  | overridden hv =>
    cases h' with
    | overridden hv' => rw [Option.some.inj (hv.symm.trans hv')]
    | recalled ho | cut ho | absent ho | entered ho | failed ho => cases ho.symm.trans hv
  | recalled ho hs =>
    cases h' with
    | overridden hv => cases ho.symm.trans hv
    | recalled _ hs' => rw [Option.some.inj (hs.symm.trans hs')]
    | cut _ hm | absent _ hm | entered _ hm | failed _ hm => cases hm.symm.trans hs
  | cut ho hm hp =>
    cases h' with
    | overridden hv => cases ho.symm.trans hv
    | recalled _ hs => cases hm.symm.trans hs
    | cut => rfl
    | absent _ _ hp' | entered _ _ hp' | failed _ _ hp' => exact absurd hp hp'
  | absent ho hm hp hn =>
    cases h' with
    | overridden hv => cases ho.symm.trans hv
    | recalled _ hs => cases hm.symm.trans hs
    | cut _ _ hp' => exact absurd hp' hp
    | absent => rfl
    | entered _ _ _ hn' | failed _ _ _ hn' => cases hn.symm.trans hn'
  | entered ho hm hp hn _ ih =>
    cases h' with
    | overridden hv => cases ho.symm.trans hv
    | recalled _ hs => cases hm.symm.trans hs
    | cut _ _ hp' => exact absurd hp' hp
    | absent _ _ _ hn' => cases hn'.symm.trans hn
    | entered _ _ _ hn' h =>
      cases hn.symm.trans hn'
      cases ih h
      rfl
    | failed _ _ _ hn' h =>
      cases hn.symm.trans hn'
      cases ih h
  | failed ho hm hp hn _ ih =>
    cases h' with
    | overridden hv => cases ho.symm.trans hv
    | recalled _ hs => cases hm.symm.trans hs
    | cut _ _ hp' => exact absurd hp' hp
    | absent _ _ _ hn' => cases hn'.symm.trans hn
    | entered _ _ _ hn' h =>
      cases hn.symm.trans hn'
      cases ih h
    | failed _ _ _ hn' h =>
      cases hn.symm.trans hn'
      cases ih h
      rfl
  | done | fail =>
    cases h'
    rfl
  | wired hs _ _ ihv ih =>
    cases h' with
    | wired hs' hv h =>
      cases hs.symm.trans hs'
      cases ihv hv
      exact ih h
    | broken hs' hv =>
      cases hs.symm.trans hs'
      cases ihv hv
    | met hl | refused hl => exact absurd hs hl.not_wired
  | broken hs _ ihv =>
    cases h' with
    | wired hs' hv =>
      cases hs.symm.trans hs'
      cases ihv hv
    | broken hs' hv =>
      cases hs.symm.trans hs'
      cases ihv hv
      rfl
    | met hl | refused hl => exact absurd hs hl.not_wired
  | met hl hm _ ih =>
    -- no node is read, so any way of reading nodes will do
    let read : String → Step σ Signal := fun id p => (.ok ⟨.null, id⟩, p)
    cases h' with
    | wired hs | broken hs => exact absurd hs hl.not_wired
    | met _ hm' h =>
      cases (hm read).symm.trans (hm' read)
      exact ih h
    | refused _ hm' => cases (hm read).symm.trans (hm' read)
  | refused hl hm =>
    let read : String → Step σ Signal := fun id p => (.ok ⟨.null, id⟩, p)
    cases h' with
    | wired hs | broken hs => exact absurd hs hl.not_wired
    | met _ hm' => cases (hm read).symm.trans (hm' read)
    | refused _ hm' =>
      cases (hm read).symm.trans (hm' read)
      rfl

/-! ## Another setting -/

section Transfer

variable {setting setting' : Setting σ} {path : List String} {job : Job} {p q : Progress σ}
  {r : Except Fault Signal × Progress σ}

/-- What another setting answers alike it answers with the same effect. -/
lemma meet_congr {node : Node} {request : Request} (hc : Comparable setting setting')
    (ha : SameAnswer setting setting' node.id request) (read : String → Step σ Signal)
    (p : Progress σ) : meet setting' node read request p = meet setting node read request p := by
  cases request with
  | read socket => simp only [meet, show setting'.graph.source? node.id socket = _ from ha]
  | isWired socket => simp only [meet, show setting'.graph.isWired node.id socket = _ from ha]
  | hovered | clicked | time => exact congrArg (fun b => (Except.ok b, p)) ha
  | sample => simp only [meet, hc.samples]
  | edge v => rfl
  | fire action => simp only [meet, hc.id, hc.post]

/-- What is local in a setting is so in one that answers it alike. -/
lemma IsLocal.congr {node : Node} {request : Request} (hl : IsLocal setting.graph node request)
    (ha : SameAnswer setting setting' node.id request) :
    IsLocal setting'.graph node request := by
  rintro socket rfl
  exact Eq.trans ha (hl socket rfl)

/-- **A setting that agrees with what was asked follows the same course.**

**Proof sketch.** Induction on the rules. What a rule has asked for is noted on its way and stays
noted until the end, where the settings agree on it. -/
theorem Runs.transfer (h : Runs setting path job p r) {s : Signal} (hr : r.1 = .ok s)
    (hq : Extends r.2 q) (ha : AgreesOnAsked setting setting' q) : Runs setting' path job p r := by
  have hvisit {id : String} {path : List String} {answer : Answer} {p : Progress σ}
      (hq : Extends (note id path answer p) q) : ⟨id, path, answer⟩ ∈ q.trail :=
    hq.trail (List.mem_append_right _ (List.mem_singleton.2 rfl))
  have hexchange {exchange : Exchange} {p : Progress σ} (hq : Extends (record exchange p) q) :
      SameAnswer setting setting' exchange.node exchange.request :=
    ha.requests _ (hq.exchanges (List.mem_append_right _ (List.mem_singleton.2 rfl)))
  induction h generalizing s with
  | overridden hv => exact .overridden ((ha.overrides _ (hvisit hq)).trans hv)
  | recalled ho hs => exact .recalled ((ha.overrides _ (hvisit hq)).trans ho) hs
  | cut ho hm hp => exact .cut ((ha.overrides _ (hvisit hq)).trans ho) hm hp
  | absent ho hm hp hn =>
    exact .absent ((ha.overrides _ (hvisit hq)).trans ho) hm hp
      ((ha.nodes _ (hvisit hq) ho).trans hn)
  | @entered _ _ _ _ _ q' ho hm hp hn h ih =>
    have hq' : Extends q' q := ⟨hq.trail, hq.exchanges⟩
    have hnoted := hvisit (h.extends.trans hq')
    exact .entered ((ha.overrides _ hnoted).trans ho) hm hp ((ha.nodes _ hnoted ho).trans hn)
      (ih rfl hq')
  | failed | fail | broken | refused => cases hr
  | done => exact .done
  | wired hs hv h ihv ih =>
    have hrest := h.extends.trans hq
    exact .wired (Eq.trans (hexchange hrest) hs) (ihv rfl ((extends_record _ _).trans hrest))
      (ih hr hq)
  | met hl hm h ih =>
    have hanswer := hexchange (h.extends.trans hq)
    exact .met (hl.congr hanswer)
      (fun read => (meet_congr ha.toComparable hanswer read _).trans (hm read)) (ih hr hq)

/-- A request from outside has the same answer in a setting that agrees. -/
lemma signal_transfer {id : String} {s : Signal} {p' : Progress σ}
    (h : signal setting id p = (.ok s, p')) (hq : Extends p' q)
    (ha : AgreesOnAsked setting setting' q) : signal setting' id p = (.ok s, p') :=
  ((runs_of_signal h).transfer rfl hq ha).unique (signal_runs setting' id p)

/-- An action pass over the same ids goes the same way in a setting that agrees. -/
lemma visitAll_transfer {nodes nodes' : List Node} {p' : Progress σ}
    (h : visitAll setting nodes p = (.ok (), p')) (hids : nodes'.map (·.id) = nodes.map (·.id))
    (hq : Extends p' q) (ha : AgreesOnAsked setting setting' q) :
    visitAll setting' nodes' p = (.ok (), p') := by
  induction nodes generalizing nodes' p with
  | nil =>
    obtain rfl : nodes' = [] := List.map_eq_nil_iff.1 hids
    exact h
  | cons node rest ih =>
    obtain ⟨node', rest', rfl, hid, hrest⟩ := List.map_eq_cons_iff.1 hids
    rw [visitAll] at h
    rcases hs : signal setting node.id p with ⟨_ | s, p₁⟩
    · rw [hs] at h
      cases h
    · rw [hs] at h
      have hlater : Extends p₁ p' := (visitAll_asked h).extends
      rw [visitAll, hid, signal_transfer hs (hlater.trans hq) ha]
      exact ih h hrest

/-- The same sources of the output are read in the same way in a setting that agrees. -/
lemma outputSocket_transfer {output output' : Node} {socket : String} {v : Option Value}
    {p' : Progress σ} (h : outputSocket setting output socket p = (.ok v, p'))
    (hsource : setting'.graph.source? output'.id socket = setting.graph.source? output.id socket)
    (hq : Extends p' q) (ha : AgreesOnAsked setting setting' q) :
    outputSocket setting' output' socket p = (.ok v, p') := by
  rw [outputSocket] at h ⊢
  rw [hsource]
  rcases hfeeds : setting.graph.source? output.id socket with _ | source
  · rwa [hfeeds] at h
  · simp only [hfeeds] at h
    rcases hs : signal setting source p with ⟨_ | s, p₁⟩
    · simp only [hs] at h
      cases h
    · simp only [hs] at h
      cases h
      simp only [signal_transfer hs hq ha]

/-- What the two sockets of an output node give is displayed. -/
lemma display_of_ok {output : Node} {p₁ p₂ : Progress σ} {style content : Option Value}
    {a : Appearance} (hout : setting.graph.output? = some output)
    (hs : outputSocket setting output "in-style" p = (.ok style, p₁))
    (hc : outputSocket setting output "in-content" p₁ = (.ok content, p₂))
    (hastyle : a.style = (style.map Value.fields).getD [])
    (htext : content.mapM contentText = .ok a.content) : display setting p = (.ok a, p₂) := by
  obtain ⟨_, shown⟩ := a
  subst hastyle
  simp only [display, hout, hs, hc]
  cases content with
  | none =>
    cases htext
    rfl
  | some v =>
    rw [Option.mapM_some] at htext
    rcases hv : contentText v with _ | text <;> rw [hv] at htext <;> cases htext
    simp only [hv]
    rfl

/-- The same is displayed in a setting that agrees. -/
lemma display_transfer {p' : Progress σ} {a : Appearance}
    (h : display setting p = (.ok a, p')) (hq : Extends p' q)
    (ha : AgreesOnAsked setting setting' q) : display setting' p = (.ok a, p') := by
  have hshown := ha.shown
  rw [Graph.shownSources, Graph.shownSources] at hshown
  rcases hout : setting.graph.output? with _ | output
  · rw [hout, Option.map_none, Option.map_eq_none_iff] at hshown
    rw [display, hout] at h
    rwa [display, hshown]
  rw [hout, Option.map_some, Option.map_eq_some_iff] at hshown
  obtain ⟨output', hout', hsources⟩ := hshown
  obtain ⟨hstyle, hcontent⟩ := Prod.mk.injEq .. ▸ hsources
  obtain ⟨style, content, p₁, hs, hc, hastyle, htext⟩ := display_ok hout h
  obtain ⟨ids, hids, -⟩ := outputSocket_asked hc
  exact display_of_ok hout' (outputSocket_transfer hs hstyle (hids.extends.trans hq) ha)
    (outputSocket_transfer hc hcontent hq ha) hastyle htext

/-- **An evaluation goes the same way in a setting that agrees with what it asked.** -/
theorem run_transfer {p' : Progress σ} {a : Appearance} (h : run setting p = (.ok a, p'))
    (ha : AgreesOnAsked setting setting' p') : run setting' p = (.ok a, p') := by
  obtain ⟨p₁, hall, hdisplay⟩ := run_ok h
  obtain ⟨ids, hids, -⟩ := display_asked hdisplay
  rw [run, visitAll_transfer hall ha.actions hids.extends ha]
  exact display_transfer hdisplay (.refl p') ha

end Transfer

/-! ## Why nodes are asked for -/

/-- The program of `reader` has read a socket that `source` feeds. -/
def ReadBy (setting : Setting σ) (q : Progress σ) (reader source : String) : Prop :=
  ∃ socket s, ⟨reader, .read socket, s⟩ ∈ q.exchanges ∧
    setting.graph.source? reader socket = some source

/-- The program of some node has read a socket that the node `id` feeds. -/
def Called (setting : Setting σ) (q : Progress σ) (id : String) : Prop :=
  ∃ node socket s, ⟨node, .read socket, s⟩ ∈ q.exchanges ∧
    setting.graph.source? node socket = some id

/-- A node that is not overridden has been asked for. -/
def Needed (setting : Setting σ) (q : Progress σ) (id : String) : Prop :=
  (∃ visit ∈ q.trail, visit.id = id) ∧ Fields.get? setting.overrides id = none

/-- A request was made by the program of a node that was needed, and is one of the requests of its
kind. -/
def MadeByNode (setting : Setting σ) (q : Progress σ) (exchange : Exchange) : Prop :=
  Needed setting q exchange.node ∧
    ∃ node kind, setting.graph.node? exchange.node = some node ∧ node.kind? = some kind ∧
      kind.MayAsk exchange.request

section Reasons

variable {setting setting' : Setting σ} {path : List String} {job : Job} {p q : Progress σ}
  {r : Except Fault Signal × Progress σ}

lemma ReadBy.mono {reader source : String} (h : ReadBy setting p reader source) (hq : Extends p q) :
    ReadBy setting q reader source := by
  obtain ⟨socket, s, hs, hsource⟩ := h
  exact ⟨socket, s, hq.exchanges hs, hsource⟩

lemma Needed.mono {id : String} (h : Needed setting p id) (hq : Extends p q) :
    Needed setting q id := by
  obtain ⟨⟨visit, hvisit, hid⟩, ho⟩ := h
  exact ⟨⟨visit, hq.trail hvisit, hid⟩, ho⟩

lemma MadeByNode.mono {exchange : Exchange} (h : MadeByNode setting p exchange)
    (hq : Extends p q) : MadeByNode setting q exchange :=
  ⟨h.1.mono hq, h.2⟩

/-- What a job asks for, besides its own node, is read by who was waiting for it. -/
lemma Runs.readBy (h : Runs setting path job p r) {s : Signal} (hr : r.1 = .ok s)
    (hj : ∀ node program, job = .rest node program → path.head? = some node.id) :
    ∀ visit ∈ r.2.trail, visit ∈ p.trail ∨ (job = .value visit.id ∧ visit.path = path) ∨
      ∃ reader, visit.path.head? = some reader ∧ ReadBy setting r.2 reader visit.id := by
  have hnoted {id : String} {path : List String} {answer : Answer} {p : Progress σ}
      {visit : Visit} (hv : visit ∈ (note id path answer p).trail) :
      visit ∈ p.trail ∨ Job.value id = .value visit.id ∧ visit.path = path := by
    rcases List.mem_append.1 hv with hv | hv
    · exact .inl hv
    · rw [List.mem_singleton.1 hv]
      exact .inr ⟨rfl, rfl⟩
  induction h generalizing s with
  | overridden | recalled | cut | absent =>
    exact fun visit hv => (hnoted hv).imp_right .inl
  | @entered path id p node _ _ _ _ _ hn _ ih =>
    intro visit hv
    have hhead : ∀ node' program, Job.rest node node.program = .rest node' program →
        (id :: path).head? = some node'.id := by
      rintro _ _ ⟨⟩
      rw [Graph.id_of_node? hn, List.head?_cons]
    rcases ih rfl hhead visit hv with hv | ⟨hv, -⟩ | hv
    · exact (hnoted hv).imp_right .inl
    · cases hv
    · exact .inr (.inr hv)
  | failed | fail | broken | refused => cases hr
  | done => exact fun visit hv => .inl hv
  | @wired path node socket _ _ source s' _ _ hs _ h ihv ih =>
    intro visit hv
    have hhead := hj _ _ rfl
    have hlater := h.extends
    rcases ih hr (by rintro _ _ ⟨⟩; exact hhead) visit hv with hv | ⟨hv, -⟩ | hv
    · rcases ihv rfl nofun visit hv with hv | ⟨hv, hpath⟩ | ⟨reader, hwaits, hv⟩
      · exact .inl hv
      · cases hv
        refine .inr (.inr ⟨node.id, hpath ▸ hhead, socket, s', hlater.exchanges ?_, hs⟩)
        exact List.mem_append_right _ List.mem_cons_self
      · exact .inr (.inr ⟨reader, hwaits, hv.mono ((extends_record _ _).trans hlater)⟩)
    · cases hv
    · exact .inr (.inr hv)
  | met hl hm _ ih =>
    intro visit hv
    have hhead := hj _ _ rfl
    rcases ih hr (by rintro _ _ ⟨⟩; exact hhead) visit hv with hv | ⟨hv, -⟩ | hv
    · exact .inl ((meet_keeps hl hm).2.1 ▸ hv)
    · cases hv
    · exact .inr (.inr hv)

/-- A row of requests asks for its nodes from outside, and for all others from a node that reads
them. -/
lemma Asked.readBy {ids : List String} (h : Asked setting ids p q) :
    ∀ visit ∈ q.trail, visit ∈ p.trail ∨ (visit.id ∈ ids ∧ visit.path = []) ∨
      ∃ reader, visit.path.head? = some reader ∧ ReadBy setting q reader visit.id := by
  induction h with
  | nil => exact fun visit hv => .inl hv
  | @cons id ids p s q r hs h ih =>
    intro visit hv
    rcases ih visit hv with hv | ⟨hid, hpath⟩ | hv
    · rcases (runs_of_signal hs).readBy rfl nofun visit hv with hv | ⟨hv, hpath⟩ | ⟨reader, hv⟩
      · exact .inl hv
      · cases hv
        exact .inr (.inl ⟨List.mem_cons_self, hpath⟩)
      · exact .inr (.inr ⟨reader, hv.1, hv.2.mono h.extends⟩)
    · exact .inr (.inl ⟨List.mem_cons_of_mem id hid, hpath⟩)
    · exact .inr (.inr hv)

/-- A row of requests asks for its nodes and for what feeds the sockets that are read on the
way. -/
lemma Asked.called {ids : List String} (h : Asked setting ids p q) :
    ∀ visit ∈ q.trail, visit ∈ p.trail ∨ visit.id ∈ ids ∨ Called setting q visit.id := by
  intro visit hv
  rcases h.readBy visit hv with hv | ⟨hid, -⟩ | ⟨reader, -, hread⟩
  · exact .inl hv
  · exact .inr (.inl hid)
  · exact .inr (.inr ⟨reader, hread⟩)

/-- A request of the program of a needed node was made by it. -/
lemma Fits.madeByNode {node : Node} {request : Request}
    {next : request.Answer → Program Outcome}
    (hf : Fits setting.graph (.rest node (.ask request next))) (hn : Needed setting p node.id)
    (a : request.Answer) : MadeByNode setting p ⟨node.id, request, a⟩ := by
  obtain ⟨hnode, ⟨kind, hkind, hask⟩, -⟩ := hf
  exact ⟨hn, node, kind, hnode, hkind, hask⟩

/-- **Every exchange was made by a needed node**, if the programs that are run belong to needed
nodes. -/
lemma Runs.madeByNode (h : Runs setting path job p r) (hf : Fits setting.graph job)
    (hj : ∀ node program, job = .rest node program → Needed setting p node.id)
    (hp : ∀ exchange ∈ p.exchanges, MadeByNode setting p exchange) :
    ∀ exchange ∈ r.2.exchanges, MadeByNode setting r.2 exchange := by
  have hlater {p q : Progress σ} (hq : Extends p q) (hsame : q.exchanges = p.exchanges)
      (hp : ∀ exchange ∈ p.exchanges, MadeByNode setting p exchange) :
      ∀ exchange ∈ q.exchanges, MadeByNode setting q exchange :=
    fun exchange he => (hp exchange (hsame ▸ he)).mono hq
  have hrecorded {p : Progress σ} {exchange : Exchange} (he : MadeByNode setting p exchange)
      (hp : ∀ exchange ∈ p.exchanges, MadeByNode setting p exchange) :
      ∀ other ∈ (record exchange p).exchanges, MadeByNode setting (record exchange p) other := by
    intro other hother
    rcases List.mem_append.1 hother with hother | hother
    · exact (hp other hother).mono (extends_record _ _)
    · rw [List.mem_singleton.1 hother]
      exact he.mono (extends_record _ _)
  have hentered {id : String} {path : List String} {p : Progress σ} {node : Node}
      (ho : Fields.get? setting.overrides id = none) (hn : setting.graph.node? id = some node) :
      Needed setting (note id path .entered p) node.id := by
    rw [Graph.id_of_node? hn]
    exact ⟨⟨⟨id, path, .entered⟩, by simp [note], rfl⟩, ho⟩
  induction h with
  | overridden | recalled | cut | absent => exact hlater (extends_note _ _ _ _) rfl hp
  | entered ho _ _ hn _ ih =>
    refine hlater ⟨List.Subset.refl _, List.Subset.refl _⟩ rfl
      (ih (fits_program hn) ?_ (hlater (extends_note _ _ _ _) rfl hp))
    rintro _ _ ⟨⟩
    exact hentered ho hn
  | failed ho _ _ hn _ ih =>
    refine ih (fits_program hn) ?_ (hlater (extends_note _ _ _ _) rfl hp)
    rintro _ _ ⟨⟩
    exact hentered ho hn
  | done | fail => exact hp
  | wired _ hv _ ihv ih =>
    have hneeded := (hj _ _ rfl).mono hv.extends
    refine ih (hf.next _) ?_ (hrecorded (hf.madeByNode hneeded _) (ihv trivial nofun hp))
    rintro _ _ ⟨⟩
    exact hneeded.mono (extends_record _ _)
  | broken _ _ ihv => exact ihv trivial nofun hp
  | met hl hm _ ih =>
    have hmet := extends_of_meet hl hm
    have hneeded := (hj _ _ rfl).mono hmet
    refine ih (hf.next _) ?_
      (hrecorded (hf.madeByNode hneeded _) (hlater hmet (meet_keeps hl hm).2.2 hp))
    rintro _ _ ⟨⟩
    exact hneeded.mono (extends_record _ _)
  | refused hl hm => exact hlater (extends_of_meet hl hm) (meet_keeps hl hm).2.2 hp

/-- Every exchange of a whole evaluation was made by a needed node. -/
lemma run_madeByNode (setting : Setting σ) (triggers : Fields) (drawn : Nat) (outlet : σ) :
    ∀ exchange ∈ (run setting (.start triggers drawn outlet)).2.exchanges,
      MadeByNode setting (run setting (.start triggers drawn outlet)).2 exchange :=
  run_keeps (P := fun p => ∀ exchange ∈ p.exchanges, MadeByNode setting p exchange)
    (fun id p hp => (signal_runs setting id p).madeByNode trivial nofun hp) nofun

/-- A setting that is the same at all visited nodes is the same in all that their programs
asked. -/
lemma AgreesOnVisited.onAsked (h : AgreesOnVisited setting setting' q)
    (hq : ∀ exchange ∈ q.exchanges, MadeByNode setting q exchange) :
    AgreesOnAsked setting setting' q := by
  refine ⟨h.toComparable, h.overrides, h.nodes, ?_⟩
  rintro ⟨id, request, answer⟩ he
  obtain ⟨⟨⟨visit, hvisit, rfl⟩, ho⟩, node, kind, hnode, hkind, hask⟩ := hq _ he
  have hvisited : Visited setting q kind :=
    ⟨visit, hvisit, ho, by rw [hnode, Option.bind_some, hkind]⟩
  cases request with
  | read socket => exact h.sources visit hvisit ho socket
  | isWired socket =>
    simp only [SameAnswer, Graph.isWired_eq_isSome_source?]
    rw [h.sources visit hvisit ho socket]
  | hovered =>
    obtain rfl : kind = .hover := hask
    exact h.hovered hvisited
  | clicked =>
    obtain rfl : kind = .click := hask
    exact h.clicked hvisited
  | time =>
    obtain rfl : kind = .timer := hask
    exact h.time hvisited
  | sample | edge | fire => trivial

end Reasons

/-! ## Guarded sockets -/

section Guards

variable {id : String} {last final : Option Value} {exchanges : List Exchange}

/-- Reading a truth value is one exchange. -/
lemma Dialogue.of_flag {socket : String} {b : Bool}
    (h : Dialogue id (Operation.flag socket) last exchanges final b) :
    ∃ s : Signal, exchanges = [⟨id, .read socket, s⟩] ∧ Coercion.truthy s.value = .ok b := by
  obtain ⟨_, _, v, _, hread, htruth, rfl⟩ := dialogue_bind.1 h
  obtain ⟨s, rfl, rfl, rfl⟩ := hread.of_value
  obtain ⟨rfl, -, hb⟩ := dialogue_ofExcept.1 htruth
  exact ⟨s, rfl, hb⟩

/-- The requests of a dialogue are within the bounds of its program. -/
lemma Dialogue.within {α : Type} {program : Program α} {a : α} {P : Request → Prop}
    {Q : α → Prop} (hprogram : program.Within P Q)
    (h : Dialogue id program last exchanges final a) :
    ∀ exchange ∈ exchanges, P exchange.request := by
  induction h with
  | done => exact nofun
  | ask _ _ ih =>
    intro exchange he
    rcases List.mem_cons.1 he with rfl | he
    · exact hprogram.1
    · exact ih (hprogram.2 _) exchange he

/-- A program that starts by reading a truth value on `other`, and reads a further socket only if
it is `b`, reads that socket under guard. -/
lemma Dialogue.guarded_of_flag {α : Type} {other socket : String} {b : Bool}
    {f : Bool → Program α} {a : α}
    (h : Dialogue id (Operation.flag other >>= f) last exchanges final a) (hne : socket ≠ other)
    (hspared : (f (!b)).Within (· ≠ .read socket) fun _ => True) {s : Signal}
    (hs : ⟨id, .read socket, s⟩ ∈ exchanges) :
    ∃ t : Signal, ⟨id, .read other, t⟩ ∈ exchanges ∧ Coercion.truthy t.value = .ok b := by
  obtain ⟨_, _, b', _, hflag, hrest, rfl⟩ := dialogue_bind.1 h
  obtain ⟨t, rfl, htruth⟩ := hflag.of_flag
  by_cases hb : b' = b
  · exact ⟨t, List.mem_append_left _ List.mem_cons_self, hb ▸ htruth⟩
  · rw [Bool.eq_not_of_ne hb] at hrest
    rcases List.mem_append.1 hs with hs | hs
    · cases List.mem_singleton.1 hs
      exact absurd rfl hne
    · exact absurd rfl (hrest.within hspared _ hs)

/-- **A guarded socket is read only as its guard allows.** -/
lemma Dialogue.guarded {node : Node} {kind : Kind} (hkind : node.kind? = some kind) {o : Outcome}
    (h : Dialogue id node.program last exchanges final o) {socket other : String} {b : Bool}
    (hg : kind.guard? socket = some (other, b)) {s : Signal}
    (hs : ⟨id, .read socket, s⟩ ∈ exchanges) :
    ∃ t : Signal, ⟨id, .read other, t⟩ ∈ exchanges ∧ Coercion.truthy t.value = .ok b := by
  simp only [Node.program, hkind] at h
  unfold Kind.guard? at hg
  split at hg
  case h_1 | h_2 =>
    cases hg
    obtain ⟨_, hvalue⟩ := Dialogue.of_making h
    exact hvalue.guarded_of_flag (by decide) (by simp) hs
  case h_3 | h_4 =>
    cases hg
    obtain ⟨_, _, _, _, hchoose, hend, rfl⟩ := dialogue_bind.1 h
    obtain ⟨rfl, -⟩ := dialogue_pure.1 hend
    rw [List.append_nil] at hs ⊢
    exact hchoose.guarded_of_flag (by decide) (by simp) hs
  case h_5 => cases hg

end Guards

section Whole

variable {setting : Setting σ} {triggers : Fields} {drawn : Nat} {outlet : σ} {a : Appearance}
  {q : Progress σ}

/-- In a whole evaluation that returns, a guarded socket is read only as its guard allows. -/
lemma run_guarded (h : run setting (.start triggers drawn outlet) = (.ok a, q)) {node : Node}
    {kind : Kind} (hnode : setting.graph.node? node.id = some node)
    (hkind : node.kind? = some kind) {socket other : String} {b : Bool}
    (hg : kind.guard? socket = some (other, b)) {s : Signal}
    (hs : ⟨node.id, .read socket, s⟩ ∈ q.exchanges) :
    ∃ t : Signal, ⟨node.id, .read other, t⟩ ∈ q.exchanges ∧
      Coercion.truthy t.value = .ok b := by
  have hown {request : Request} {answer : request.Answer} :
      ⟨node.id, request, answer⟩ ∈ own node.id q.exchanges ↔
        ⟨node.id, request, answer⟩ ∈ q.exchanges := by
    simp [own]
  obtain ⟨ids, hids, -⟩ := run_asked h
  have ho : Fields.get? setting.overrides node.id = none := by
    have hmade := run_madeByNode setting triggers drawn outlet
    rw [h] at hmade
    exact (hmade _ hs).1.2
  rcases (hids.finishes hnode ho (.inl (untouched_start _ _ _ _))).1 with hq | hq
  · have hnone := hown.2 hs
    rw [hq.silent] at hnone
    cases hnone
  · obtain ⟨o, hdialogue⟩ := hq.dialogue
    obtain ⟨t, ht, htruth⟩ := hdialogue.guarded hkind hg (hown.2 hs)
    exact ⟨t, hown.1 ht, htruth⟩

/-- **An evaluation depends only on what it asked for.** Let an evaluation return. A setting that is
the same at all nodes that were asked for gives the same appearance, with the same events, triggers
and samples, and so does one that is the same only in what the programs of these nodes asked. A node
is asked for only if it acts, if it feeds the output, or if a program has read a socket that it
feeds; only nodes that are not overridden have programs that read, and a node that chooses reads
only what it chooses. -/
theorem run_depends_on_visited (h : run setting (.start triggers drawn outlet) = (.ok a, q)) :
    (∀ setting', AgreesOnVisited setting setting' q →
      run setting' (.start triggers drawn outlet) = (.ok a, q)) ∧
    (∀ setting', AgreesOnAsked setting setting' q →
      run setting' (.start triggers drawn outlet) = (.ok a, q)) ∧
    (∀ visit ∈ q.trail, visit.id ∈ setting.graph.actions.map (·.id) ∨
      FeedsDisplay setting.graph visit.id ∨ Called setting q visit.id) ∧
    (∀ exchange ∈ q.exchanges, Fields.get? setting.overrides exchange.node = none) ∧
    ∀ node kind socket other b s, setting.graph.node? node.id = some node →
      node.kind? = some kind → kind.guard? socket = some (other, b) →
      ⟨node.id, .read socket, s⟩ ∈ q.exchanges →
        ∃ t : Signal, ⟨node.id, .read other, t⟩ ∈ q.exchanges ∧
          Coercion.truthy t.value = .ok b := by
  have hmade := run_madeByNode setting triggers drawn outlet
  rw [h] at hmade
  refine ⟨fun setting' ha => run_transfer h (ha.onAsked hmade), fun setting' => run_transfer h,
    fun visit hvisit => ?_, fun exchange he => (hmade exchange he).1.2, ?_⟩
  · obtain ⟨ids, hids, hfeeds⟩ := run_asked h
    rcases hids.called visit hvisit with hv | hv | hv
    · cases hv
    · exact (List.mem_append.1 hv).imp_right fun hv => .inl (hfeeds _ hv)
    · exact .inr (.inr hv)
  · intro node kind socket other b s hnode hkind hg hs
    exact run_guarded h hnode hkind hg hs

/-- A switch that lets one of two texts through and rings; the text is shown with a mark behind
it. -/
def crossing : Graph :=
  ⟨[⟨"on", "TOGGLE", [("value", .bool true)]⟩, ⟨"yes", "TEXT", [("value", .str "go")]⟩,
      ⟨"no", "RANDOM", []⟩, ⟨"pick", "IF_ELSE", []⟩, ⟨"mark", "TEXT", []⟩, ⟨"join", "CONCAT", []⟩,
      ⟨"ring", "ALERT", [("value", .str "ding")]⟩, ⟨"out", "OUTPUT", []⟩],
    [⟨"on", "pick", "in-condition"⟩, ⟨"yes", "pick", "in-true"⟩, ⟨"no", "pick", "in-false"⟩,
      ⟨"pick", "join", "in-a"⟩, ⟨"mark", "join", "in-b"⟩, ⟨"on", "ring", "in-trigger"⟩,
      ⟨"join", "out", "in-content"⟩], .null, .null⟩

/-- The crossing with a loop before its mark, nothing on the text that is not let through, a second
connection to the other one, and nodes that nobody asks for. -/
def rebuiltCrossing : Graph :=
  ⟨[⟨"hover", "INTERACTION_HOVER", []⟩, ⟨"on", "TOGGLE", [("value", .bool true)]⟩,
      ⟨"yes", "TEXT", [("value", .str "go")]⟩, ⟨"pick", "IF_ELSE", []⟩, ⟨"mark", "NOT", []⟩,
      ⟨"join", "CONCAT", []⟩, ⟨"ring", "ALERT", [("value", .str "ding")]⟩, ⟨"out", "OUTPUT", []⟩],
    [⟨"on", "pick", "in-condition"⟩, ⟨"yes", "pick", "in-true"⟩, ⟨"hover", "pick", "in-true"⟩,
      ⟨"mark", "mark", "in-a"⟩, ⟨"pick", "join", "in-a"⟩, ⟨"mark", "join", "in-b"⟩,
      ⟨"on", "ring", "in-trigger"⟩, ⟨"join", "out", "in-content"⟩], .null, .str "rebuilt"⟩

/-- A graph in a context, with a mark of exclamation for the mark. -/
def marked (graph : Graph) (context : Context) : Setting (List Event) :=
  ⟨graph, [("mark", .str "!")], context, fun _ => 0.5, fun event heard => (none, heard ++ [event])⟩

/-- The rebuilt crossing, with the pointer over it, shows and rings as the first one does. -/
theorem rebuilt_crossing_alike :
    let crossed := run (marked crossing .initial) (.start [] 0 [])
    crossed.1 = .ok ⟨[], some "go!"⟩ ∧
      AgreesOnAsked (marked crossing .initial) (marked rebuiltCrossing ⟨true, false, .float 0⟩)
        crossed.2 ∧
      run (marked rebuiltCrossing ⟨true, false, .float 0⟩) (.start [] 0 []) = crossed ∧
      crossed.2.outlet = [.alert ⟨.str "ring", .null, .null⟩ (.str "ding")] := by
  intro crossed
  have hreturns : crossed.1 = .ok ⟨[], some "go!"⟩ := by decide
  have hagrees : AgreesOnAsked (marked crossing .initial)
      (marked rebuiltCrossing ⟨true, false, .float 0⟩) crossed.2 :=
    ⟨⟨rfl, by decide, by decide, rfl, rfl⟩, by decide, by decide, by decide⟩
  refine ⟨hreturns, hagrees, ?_, by decide⟩
  exact (run_depends_on_visited (Prod.ext hreturns rfl)).2.1 _ hagrees |>.trans
    (Prod.ext hreturns.symm rfl)

end Whole

end Evaluation

end DesignGraph
