import DesignGraph.Proofs.Evaluation.Course
/-!
# What is displayed does not depend on triggers

An action looks at its trigger after it has read all that it reads, and its value is null whether it
fires or not. So two evaluations of a graph that differ in what they remember of triggers, and in
who hears of events, remember the same signals at every point, look at the same triggers and draw
the same samples. In particular they display the same. Without random nodes this holds even if they
start at different samples.

## Main definitions

* `DesignGraph.Program.LooksLast` — after a look at the trigger a program at most fires.
* `DesignGraph.Graph.IsSteady` — a graph without random nodes.
* `DesignGraph.Graph.givesContent` — whether a graph gives content at all.
* `DesignGraph.Evaluation.Setting.heardBy` — the same evaluation with events going elsewhere.
* `DesignGraph.Evaluation.written` — what was written to the memory of triggers.
* `DesignGraph.Evaluation.Alike` — what such evaluations have in common.

## Main results

* `DesignGraph.Node.program_looksLast` — the program of every node looks at its trigger last.
* `DesignGraph.Evaluation.Runs.alike` — evaluations that are alike go on to be so.
* `DesignGraph.Evaluation.run_heardBy` — whole evaluations are alike.
* `DesignGraph.Evaluation.run_alike` — a steady graph displays one appearance.
* `DesignGraph.Evaluation.run_givesContent` — whether there is content is a matter of wiring.
-/

set_option relaxedAutoImplicit false
set_option autoImplicit false

namespace DesignGraph

/-! ## Looking last -/

namespace Program

variable {α β : Type} {P : α → Prop} {Q : β → Prop}

/-- A request that fires an action. -/
def Fires (request : Request) : Prop :=
  ∃ action, request = .fire action

/-- A request that does not look at the trigger. -/
def Blind (request : Request) : Prop :=
  ∀ v, request ≠ .edge v

/-- After a look at the trigger the program at most fires, and its result satisfies `P`. -/
def LooksLast (P : α → Prop) : Program α → Prop
  | .done _ | .fail _ => True
  | .ask request next =>
    (¬Blind request → ∀ answer, (next answer).Within Fires P) ∧
      ∀ answer, (next answer).LooksLast P

/-- A program that never looks at its trigger may be followed by one that looks at it last. -/
lemma Within.looksLast_bind {program : Program α} {f : α → Program β}
    (h : program.Within Blind fun _ => True) (hf : ∀ a, (f a).LooksLast Q) :
    (program >>= f).LooksLast Q := by
  change (program.bind f).LooksLast Q
  induction program with
  | done a => exact hf a
  | fail fault => trivial
  | ask request next ih =>
    exact ⟨fun hlook => absurd h.1 hlook, fun answer => ih answer (h.2 answer)⟩

/-- A program that never looks at its trigger looks at it last. -/
lemma Within.looksLast {R : α → Prop} {program : Program α} (h : program.Within Blind R) :
    program.LooksLast P := by
  induction program with
  | done a | fail fault => trivial
  | ask request next ih =>
    exact ⟨fun hlook => absurd h.1 hlook, fun answer => ih answer (h.2 answer)⟩

/-- A result may be changed afterwards. -/
lemma LooksLast.bind_pure {program : Program α} {f : α → β} (h : program.LooksLast P)
    (hf : ∀ a, P a → Q (f a)) : (program >>= fun a => pure (f a)).LooksLast Q := by
  change (program.bind fun a => .done (f a)).LooksLast Q
  induction program with
  | done a | fail fault => trivial
  | ask request next ih =>
    refine ⟨fun hlook answer => ?_, fun answer => ih answer (h.2 answer)⟩
    exact within_bind.2 ((h.1 hlook answer).mono (fun _ hfires => hfires) hf)

/-- What only fires never looks at its trigger. -/
lemma Within.blind {program : Program α} (h : program.Within Fires P) : program.Within Blind P :=
  h.mono (by rintro _ ⟨action, rfl⟩; exact nofun) fun _ ha => ha

end Program

namespace Operation

open Program

/-- What an action does with its trigger is one look, after which it at most fires. -/
lemma looksLast_fireOn {trigger payload : Value} {action : Program Action}
    (haction : action.Within Fires fun _ => True) :
    (fireOn trigger payload action).LooksLast (· = .null) := by
  have hfire : (action >>= fun a => request (.fire a)).Within Fires fun _ => True := by
    rw [within_bind]
    exact haction.mono (fun _ h => h) fun a _ => ⟨⟨a, rfl⟩, fun _ => trivial⟩
  have hrest (rises : Bool) : (do
      if rises then
        if ← ofExcept (Coercion.truthy payload) then
          request (.fire (← action))
      return Value.null : Program Value).Within Fires (· = .null) := by
    simpa using fun _ _ => within_bind.1 hfire
  exact ⟨fun _ rises => hrest rises, fun rises => (hrest rises).blind.looksLast⟩

/-- A program of a value that looks last still does so as the program of a node. -/
lemma looksLast_making {program : Program Value} (h : program.LooksLast (· = .null)) :
    (making program).LooksLast (· = .made .null) :=
  h.bind_pure fun _ ha => congrArg Outcome.made ha

end Operation

namespace Node

open Program Operation

/-- **The program of every node looks at its trigger last**, and then its result is null. -/
theorem program_looksLast (node : Node) : node.program.LooksLast (· = .made .null) := by
  unfold program
  rcases hk : node.kind? with _ | kind
  · trivial
  by_cases hact : kind.isAction = true
  · cases kind with
    | navigate =>
      refine looksLast_making (Within.looksLast_bind ?_ fun _ => ?_)
      · simp [Blind]
      · exact looksLast_fireOn trivial
    | link =>
      refine looksLast_making (Within.looksLast_bind ?_ fun _ => ?_)
      · simp [Blind]
      refine Within.looksLast_bind ?_ fun _ => ?_
      · simp [Blind]
      refine Within.looksLast_bind ?_ fun _ => ?_
      · simp
      refine Within.looksLast_bind ?_ fun _ => ?_
      · simp [Blind]
      exact looksLast_fireOn (by simp)
    | alert =>
      refine looksLast_making (Within.looksLast_bind ?_ fun _ => ?_)
      · simp [Blind]
      refine Within.looksLast_bind ?_ fun _ => ?_
      · simp [Blind]
      refine Within.looksLast_bind ?_ fun _ => ?_
      · simp
      exact looksLast_fireOn trivial
    | _ => cases hact
  · refine ((ofKind_within kind node).mono (fun request hask => ?_) fun _ h => h).looksLast
    rintro v rfl
    exact hact hask

end Node

/-- No node of the graph is random. -/
def Graph.IsSteady (graph : Graph) : Prop :=
  ∀ node ∈ graph.nodes, node.kind? ≠ some .random

instance (graph : Graph) : Decidable graph.IsSteady :=
  inferInstanceAs (Decidable (∀ node ∈ graph.nodes, node.kind? ≠ some .random))

/-- Whether the graph gives content: the empty text without an output node, else what feeds the
content of the first one. -/
def Graph.givesContent (graph : Graph) : Bool :=
  graph.output?.all fun output => graph.isWired output.id "in-content"

namespace Evaluation

variable {σ τ : Type} {setting : Setting σ} {post : Event → τ → Option Fault × τ}
  {path : List String} {p : Progress σ} {p' : Progress τ} {drawn drawn' : Nat}

/-! ## Two courses -/

/-- The same evaluation with its events going elsewhere. -/
def Setting.heardBy (setting : Setting σ) (post : Event → τ → Option Fault × τ) : Setting τ :=
  ⟨setting.graph, setting.overrides, setting.context, setting.samples, post⟩

/-- What was written to the memory of triggers, in order: the nodes that looked at their triggers,
each with the value that it saw. -/
def written (exchanges : List Exchange) : Fields :=
  exchanges.filterMap fun
    | ⟨node, .edge v, _⟩ => some (node, v)
    | _ => none

/-- Two evaluations, which started with `drawn` and `drawn'` samples drawn, remember the same
signals, have written the same to the memory of triggers and have drawn equally many samples. -/
structure Alike (drawn drawn' : Nat) (p : Progress σ) (p' : Progress τ) : Prop where
  memo : p'.memo = p.memo
  written : written p'.exchanges = written p.exchanges
  drawn : p'.drawn + drawn = p.drawn + drawn'

/-- What an evaluation is about to do looks at triggers last. -/
def Job.LooksLast : Job → Prop
  | .value _ => True
  | .rest _ program => program.LooksLast (· = .made .null)

lemma written_record (exchange : Exchange) (p : Progress σ) :
    written (record exchange p).exchanges = written p.exchanges ++ written [exchange] :=
  List.filterMap_append

/-- A program that at most fires comes to null, and leaves memories and samples alone. -/
lemma Runs.of_fires {job : Job} {r : Except Fault Signal × Progress σ}
    (h : Runs setting path job p r) {node : Node} {program : Program Outcome}
    (hjob : job = .rest node program) (hfires : program.Within Program.Fires (· = .made .null))
    {s : Signal} (hr : r.1 = .ok s) :
    s = ⟨.null, node.id⟩ ∧ r.2.memo = p.memo ∧ written r.2.exchanges = written p.exchanges ∧
      r.2.drawn = p.drawn := by
  induction h generalizing program with
  | overridden | recalled | cut | absent | entered | failed => cases hjob
  | @done _ _ _ o =>
    cases hjob
    obtain rfl : o = .made .null := hfires
    cases hr
    exact ⟨rfl, rfl, rfl, rfl⟩
  | fail | refused | broken => cases hr
  | wired =>
    cases hjob
    obtain ⟨_, ⟨⟩⟩ := hfires.1
  | met hl hm _ ih =>
    cases hjob
    obtain ⟨action, rfl⟩ := hfires.1
    obtain ⟨hs, hmemo, hwritten, hdrawn⟩ := ih rfl (hfires.2 _) hr
    obtain rfl := eq_effect_of_meet hl hm
    refine ⟨hs, hmemo, hwritten.trans ?_, hdrawn⟩
    rw [written_record]
    exact List.append_nil _

/-- What is answered on both sides is recorded alike. -/
lemma Alike.record (h : Alike drawn drawn' p p') (id : String) {request : Request}
    (a a' : request.Answer) :
    Alike drawn drawn' (record ⟨id, request, a⟩ p) (record ⟨id, request, a'⟩ p') := by
  refine ⟨h.memo, ?_, h.drawn⟩
  rw [written_record, written_record, h.written]
  cases request <;> rfl

/-- **A local request that is granted on both sides is answered alike**, unless it is a look at a
trigger, and it has the same bearing on samples and memory. -/
lemma Alike.met {node : Node} {request : Request} {a a' : request.Answer} {q : Progress σ}
    {q' : Progress τ} (h : Alike drawn drawn' p p') (hl : IsLocal setting.graph node request)
    (hsample : request ≠ .sample ∨ drawn' = drawn)
    (hm : ∀ read, meet setting node read request p = (.ok a, q))
    (hm' : ∀ read, meet (setting.heardBy post) node read request p' = (.ok a', q')) :
    Alike drawn drawn' q q' ∧ (Program.Blind request → a' = a) := by
  obtain rfl := eq_effect_of_meet hl hm
  have hl' : IsLocal (setting.heardBy post).graph node request := hl
  obtain rfl := eq_effect_of_meet hl' hm'
  -- no node is read, so any way of reading nodes will do
  have hanswer := congrArg Prod.fst (hm fun id p => (.ok ⟨.null, id⟩, p))
  have hanswer' := congrArg Prod.fst (hm' fun id p => (.ok ⟨.null, id⟩, p))
  cases request with
  | read socket =>
    have hnone : (setting.heardBy post).graph.source? node.id socket = none := hl socket rfl
    simp only [meet, hl socket rfl, hnone] at hanswer hanswer'
    exact ⟨h, fun _ => Except.ok.inj (hanswer'.symm.trans hanswer)⟩
  | isWired | hovered | clicked | time =>
    exact ⟨h, fun _ => Except.ok.inj (hanswer'.symm.trans hanswer)⟩
  | sample =>
    have hsame : p'.drawn = p.drawn := by
      have hcount := h.drawn
      have heq := hsample.resolve_left (· rfl)
      omega
    refine ⟨⟨h.memo, h.written, ?_⟩, fun _ => ?_⟩
    · have hcount := h.drawn
      simp only [effect]
      omega
    · cases hanswer
      cases hanswer'
      exact congrArg setting.samples hsame
  | edge v => exact ⟨⟨h.memo, h.written, h.drawn⟩, fun hblind => absurd rfl (hblind v)⟩
  | fire action => exact ⟨⟨h.memo, h.written, h.drawn⟩, fun _ => rfl⟩

/-- A job of a steady graph never samples. -/
lemma Fits.not_sample {node : Node} {request : Request} {next : request.Answer → Program Outcome}
    (hf : Fits setting.graph (.rest node (.ask request next))) (hsteady : setting.graph.IsSteady) :
    request ≠ .sample := by
  rintro rfl
  obtain ⟨hnode, ⟨kind, hkind, hask⟩, -⟩ := hf
  obtain rfl : kind = .random := hask
  exact hsteady node (List.mem_of_find?_eq_some hnode) hkind

/-- **Evaluations that are alike go on to be so**, whatever they remember of triggers and wherever
their events go, as long as they return. They need to have drawn the same samples only if there are
random nodes.

**Proof sketch.** Induction on one course, with the rules of the other one. Only a look at a trigger
can be answered in two ways, and after it both programs at most fire and come to null. -/
theorem Runs.alike {job : Job} {r : Except Fault Signal × Progress σ}
    {r' : Except Fault Signal × Progress τ} (h : Runs setting path job p r)
    (h' : Runs (setting.heardBy post) path job p' r') {s s' : Signal} (hr : r.1 = .ok s)
    (hr' : r'.1 = .ok s') (hsamples : setting.graph.IsSteady ∨ drawn' = drawn)
    (hf : Fits setting.graph job) (hlast : job.LooksLast) (hp : Alike drawn drawn' p p') :
    s' = s ∧ Alike drawn drawn' r.2 r'.2 := by
  induction h generalizing p' r' s s' with
  | overridden hv =>
    cases h' with
    | overridden hv' =>
      cases hr
      cases hr'
      exact ⟨by rw [Option.some.inj (hv.symm.trans hv')], hp.memo, hp.written, hp.drawn⟩
    | recalled ho | cut ho | absent ho | entered ho | failed ho => cases ho.symm.trans hv
  | recalled ho hs =>
    rw [← hp.memo] at hs
    cases h' with
    | overridden hv => cases ho.symm.trans hv
    | recalled _ hs' =>
      cases hr
      cases hr'
      exact ⟨Option.some.inj (hs'.symm.trans hs), hp.memo, hp.written, hp.drawn⟩
    | cut _ hm | absent _ hm | entered _ hm | failed _ hm => cases hm.symm.trans hs
  | cut ho hm hpath =>
    rw [← hp.memo] at hm
    cases h' with
    | overridden hv => cases ho.symm.trans hv
    | recalled _ hs => cases hm.symm.trans hs
    | cut =>
      cases hr
      cases hr'
      exact ⟨rfl, hp.memo, hp.written, hp.drawn⟩
    | absent _ _ hpath' | entered _ _ hpath' | failed _ _ hpath' => exact absurd hpath hpath'
  | absent ho hm hpath hn =>
    rw [← hp.memo] at hm
    cases h' with
    | overridden hv => cases ho.symm.trans hv
    | recalled _ hs => cases hm.symm.trans hs
    | cut _ _ hpath' => exact absurd hpath' hpath
    | absent =>
      cases hr
      cases hr'
      exact ⟨rfl, hp.memo, hp.written, hp.drawn⟩
    | entered _ _ _ hn' | failed _ _ _ hn' => cases hn.symm.trans hn'
  | @entered path id p node s₁ q ho hm hpath hn _ ih =>
    rw [← hp.memo] at hm
    cases h' with
    | overridden hv => cases ho.symm.trans hv
    | recalled _ hs => cases hm.symm.trans hs
    | cut _ _ hpath' => exact absurd hpath' hpath
    | absent _ _ _ hn' => cases hn'.symm.trans hn
    | entered _ _ _ hn' h =>
      cases hn.symm.trans hn'
      have hentered : Alike drawn drawn' (note id path .entered p) (note id path .entered p') :=
        ⟨hp.memo, hp.written, hp.drawn⟩
      obtain ⟨rfl, hq⟩ := ih h rfl rfl (fits_program hn) (Node.program_looksLast _) hentered
      cases hr
      cases hr'
      exact ⟨rfl, congrArg (· ++ _) hq.memo, hq.written, hq.drawn⟩
    | failed => cases hr'
  | failed | fail | broken | refused => cases hr
  | done =>
    cases h'
    cases hr
    cases hr'
    exact ⟨rfl, hp⟩
  | @wired path node socket next p source s₁ q r hs _ _ ihv ih =>
    cases h' with
    | wired hs' hv h =>
      cases hs.symm.trans hs'
      obtain ⟨rfl, hq⟩ := ihv hv rfl rfl trivial trivial hp
      exact ih h hr hr' (hf.next _) (hlast.2 _) (hq.record node.id _ _)
    | broken => cases hr'
    | met hl | refused hl => exact absurd hs hl.not_wired
  | @met path node request next p a q r hl hm hrest ih =>
    cases h' with
    | wired hs | broken hs => exact absurd hs hl.not_wired
    | refused => cases hr'
    | @met _ _ _ _ _ a' q' _ _ hm' h =>
      obtain ⟨hq, hsame⟩ := hp.met hl (hsamples.imp_left hf.not_sample) hm hm'
      have hrecorded := hq.record node.id a a'
      by_cases hblind : Program.Blind request
      · obtain rfl := hsame hblind
        exact ih h hr hr' (hf.next _) (hlast.2 _) hrecorded
      · obtain ⟨rfl, hmemo, hwritten, hdrawn⟩ := hrest.of_fires rfl (hlast.1 hblind _) hr
        obtain ⟨rfl, hmemo', hwritten', hdrawn'⟩ := h.of_fires rfl (hlast.1 hblind _) hr'
        refine ⟨rfl, ?_, ?_, ?_⟩
        · rw [hmemo, hmemo', hrecorded.memo]
        · rw [hwritten, hwritten', hrecorded.written]
        · rw [hdrawn, hdrawn', hrecorded.drawn]

/-! ## Whole evaluations -/

section Whole

variable {q : Progress σ} {q' : Progress τ}

/-- A request from outside has one answer. -/
lemma signal_alike {id : String} {s s' : Signal} (h : signal setting id p = (.ok s, q))
    (h' : signal (setting.heardBy post) id p' = (.ok s', q'))
    (hsamples : setting.graph.IsSteady ∨ drawn' = drawn) (hp : Alike drawn drawn' p p') :
    s' = s ∧ Alike drawn drawn' q q' :=
  (runs_of_signal h).alike (runs_of_signal h') rfl rfl hsamples trivial trivial hp

/-- Rows of requests for the same nodes keep evaluations alike. -/
lemma Asked.alike {ids : List String} (h : Asked setting ids p q)
    (h' : Asked (setting.heardBy post) ids p' q')
    (hsamples : setting.graph.IsSteady ∨ drawn' = drawn) (hp : Alike drawn drawn' p p') :
    Alike drawn drawn' q q' := by
  induction h generalizing p' with
  | nil =>
    cases h'
    exact hp
  | cons hs _ ih =>
    cases h' with
    | cons hs' h' => exact ih h' (signal_alike hs hs' hsamples hp).2

/-- A socket of the output node has one value. -/
lemma outputSocket_alike {output : Node} {socket : String} {v v' : Option Value}
    (h : outputSocket setting output socket p = (.ok v, q))
    (h' : outputSocket (setting.heardBy post) output socket p' = (.ok v', q'))
    (hsamples : setting.graph.IsSteady ∨ drawn' = drawn) (hp : Alike drawn drawn' p p') :
    v' = v ∧ Alike drawn drawn' q q' := by
  have hgraph : (setting.heardBy post).graph = setting.graph := rfl
  rw [outputSocket] at h h'
  rw [hgraph] at h'
  rcases hsource : setting.graph.source? output.id socket with _ | source
  · rw [hsource] at h h'
    cases h
    cases h'
    exact ⟨rfl, hp⟩
  · simp only [hsource] at h h'
    rcases hs : signal setting source p with ⟨_ | s, q₁⟩
    · rw [hs] at h
      cases h
    rcases hs' : signal (setting.heardBy post) source p' with ⟨_ | s', q₁'⟩
    · rw [hs'] at h'
      cases h'
    rw [hs] at h
    rw [hs'] at h'
    cases h
    cases h'
    obtain ⟨rfl, hq⟩ := signal_alike hs hs' hsamples hp
    exact ⟨rfl, hq⟩

/-- The output node displays one appearance. -/
lemma display_alike {a a' : Appearance} (h : display setting p = (.ok a, q))
    (h' : display (setting.heardBy post) p' = (.ok a', q'))
    (hsamples : setting.graph.IsSteady ∨ drawn' = drawn) (hp : Alike drawn drawn' p p') :
    a' = a ∧ Alike drawn drawn' q q' := by
  have hgraph : (setting.heardBy post).graph = setting.graph := rfl
  rcases hout : setting.graph.output? with _ | output
  · rw [display, hout] at h
    rw [display, hgraph, hout] at h'
    cases h
    cases h'
    exact ⟨rfl, hp⟩
  obtain ⟨style, content, q₁, hstyle, hcontent, hastyle, htext⟩ := display_ok hout h
  obtain ⟨style', content', q₁', hstyle', hcontent', hastyle', htext'⟩ :=
    display_ok (hgraph.symm ▸ hout) h'
  obtain ⟨rfl, hq₁⟩ := outputSocket_alike hstyle hstyle' hsamples hp
  obtain ⟨rfl, hq⟩ := outputSocket_alike hcontent hcontent' hsamples hq₁
  have hsame : a'.style = a.style := hastyle'.trans hastyle.symm
  have hsame' : a'.content = a.content := Except.ok.inj (htext'.symm.trans htext)
  rcases a with ⟨_, _⟩
  rcases a' with ⟨_, _⟩
  rw [Appearance.mk.injEq]
  exact ⟨⟨hsame, hsame'⟩, hq⟩

variable {triggers triggers' : Fields} {outlet : σ} {a a' : Appearance}

/-- **Whole evaluations are alike**, whatever is remembered of triggers and wherever events go. -/
theorem run_heardBy {outlet' : τ} (h : run setting (.start triggers drawn outlet) = (.ok a, q))
    (h' : run (setting.heardBy post) (.start triggers' drawn' outlet') = (.ok a', q'))
    (hsamples : setting.graph.IsSteady ∨ drawn' = drawn) : a' = a ∧ Alike drawn drawn' q q' := by
  obtain ⟨p₁, hall, hdisplay⟩ := run_ok h
  obtain ⟨p₁', hall', hdisplay'⟩ := run_ok h'
  have hstart : Alike drawn drawn' (.start triggers drawn outlet)
      (.start triggers' drawn' outlet') := ⟨rfl, rfl, Nat.add_comm _ _⟩
  exact display_alike hdisplay hdisplay' hsamples
    ((visitAll_asked hall).alike (visitAll_asked hall') hsamples hstart)

/-- **A steady graph displays one appearance**, whatever is remembered of triggers. -/
theorem run_alike {q q' : Progress σ} {outlet' : σ}
    (h : run setting (.start triggers drawn outlet) = (.ok a, q))
    (h' : run setting (.start triggers' drawn' outlet') = (.ok a', q'))
    (hsteady : setting.graph.IsSteady) : a' = a := by
  have hsame : setting.heardBy setting.post = setting := rfl
  rw [← hsame] at h'
  exact (run_heardBy h h' (.inl hsteady)).1

/-- A graph without output node displays the empty text. -/
lemma run_without_output {a : Appearance} (h : run setting p = (.ok a, q))
    (hout : setting.graph.output? = none) : a = ⟨[], some ""⟩ := by
  obtain ⟨p', -, hdisplay⟩ := run_ok h
  rw [display, hout] at hdisplay
  cases hdisplay
  rfl

/-- Only a socket that nothing feeds has no value. -/
lemma isSome_of_outputSocket {output : Node} {socket : String} {v : Option Value}
    (h : outputSocket setting output socket p = (.ok v, q)) :
    v.isSome = setting.graph.isWired output.id socket := by
  rw [outputSocket] at h
  rw [Graph.isWired_eq_isSome_source?]
  rcases hsource : setting.graph.source? output.id socket with _ | source
  · rw [hsource] at h
    cases h
    rfl
  · simp only [hsource] at h
    rcases hs : signal setting source p with ⟨_ | s, q₁⟩ <;> rw [hs] at h <;> cases h
    rfl

/-- **A graph gives content exactly if its wiring says so.** -/
theorem run_givesContent {a : Appearance} (h : run setting p = (.ok a, q)) :
    a.content.isSome = setting.graph.givesContent := by
  rcases hout : setting.graph.output? with _ | output
  · obtain rfl := run_without_output h hout
    simp [Graph.givesContent, hout]
  obtain ⟨p', -, hdisplay⟩ := run_ok h
  obtain ⟨_, content, _, -, hcontent, -, htext⟩ := display_ok hout hdisplay
  simp only [Graph.givesContent, hout, Option.all_some, ← isSome_of_outputSocket hcontent]
  rcases content with _ | v
  · rw [← Except.ok.inj htext]
    rfl
  · rw [Option.mapM_some] at htext
    rcases hv : contentText v with _ | text
    · rw [hv] at htext
      cases htext
    · rw [hv] at htext
      rw [← Except.ok.inj htext]
      rfl

end Whole

end Evaluation

end DesignGraph
