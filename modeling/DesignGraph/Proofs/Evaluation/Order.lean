import DesignGraph.Proofs.Evaluation.Display
import DesignGraph.Proofs.Evaluation.Footprint
import DesignGraph.Proofs.Evaluation.Meaning
import DesignGraph.Proofs.Graph.Rearrangement
/-!
# Authoring order

The order in which nodes and connections stand in a graph decides in which order an evaluation asks
for nodes: actions are passed in authoring order, and what they read is remembered in the order in
which they read it. A graph without problems has one meaning for every node, though, and each action
has one dialogue, which is fixed by what it reads. So the graph displays the same in any order,
remembers the same of triggers and fires the same actions; only the order of the events may change.

## Main definitions

* `DesignGraph.Evaluation.Resembles` — settings in which every lookup finds the same.
* `DesignGraph.Evaluation.Accounted` — every exchange is answered with what it means.

## Main results

* `DesignGraph.Evaluation.Dialogue.unique` — a dialogue is fixed by the answers in it.
* `DesignGraph.Evaluation.perm_events` — equal dialogues of all nodes fire the same events.
* `DesignGraph.Evaluation.run_rearranged` — authoring order changes at most the order of events.
-/

set_option relaxedAutoImplicit false
set_option autoImplicit false

namespace DesignGraph

namespace Evaluation

variable {σ σ' : Type}

/-! ## The same meaning -/

/-- Settings in which every lookup finds the same, in the same context. -/
structure Resembles (setting : Setting σ) (setting' : Setting σ') : Prop where
  graph : setting.graph.LooksUpAlike setting'.graph
  overrides : ∀ id, Fields.get? setting'.overrides id = Fields.get? setting.overrides id
  context : setting'.context = setting.context

section Meaning

variable {setting : Setting σ} {setting' : Setting σ'}

lemma Resembles.symm (h : Resembles setting setting') : Resembles setting' setting :=
  ⟨h.graph.symm, fun id => (h.overrides id).symm, h.context.symm⟩

/-- Plain answers depend only on lookups. -/
lemma Plain.congr (h : Resembles setting setting') {node : Node} {request : Request}
    {a : request.Answer} (ha : Plain setting.graph setting.context node request a) :
    Plain setting'.graph setting'.context node request a := by
  cases request with
  | read socket => exact ⟨(h.graph.source _ _).trans ha.1, ha.2⟩
  | isWired socket =>
    rw [Plain, Graph.isWired_eq_isSome_source?] at ha ⊢
    rw [ha, h.graph.source]
  | sample | edge | fire => trivial
  | hovered | clicked | time =>
    rw [Plain] at ha ⊢
    rw [ha, h.context]

/-- Meanings depend only on lookups. -/
lemma Denotes.congr (h : Resembles setting setting') {job : Job} {s : Signal}
    (hs : Denotes setting.graph setting.overrides setting.context job s) :
    Denotes setting'.graph setting'.overrides setting'.context job s := by
  induction hs with
  | overridden hv => exact .overridden ((h.overrides _).trans hv)
  | absent ho hn => exact .absent ((h.overrides _).trans ho) ((h.graph.node _).trans hn)
  | computed ho hn _ ih =>
    exact .computed ((h.overrides _).trans ho) ((h.graph.node _).trans hn) ih
  | done => exact .done
  | wired hs _ _ ihv ih => exact .wired ((h.graph.source _ _).trans hs) ihv ih
  | plain hp _ ih => exact .plain (hp.congr h) ih

end Meaning

/-! ## What exchanges are answered with -/

/-- Every local request so far was answered plainly. -/
def AnsweredPlainly (setting : Setting σ) (p : Progress σ) : Prop :=
  ∀ exchange ∈ p.exchanges, ∀ node, setting.graph.node? exchange.node = some node →
    IsLocal setting.graph node exchange.request →
    Plain setting.graph setting.context node exchange.request exchange.answer

/-- Every exchange is answered with what it means: reads of wired sockets with the meaning of what
feeds them, local requests plainly; and each was made by a node that makes such requests. -/
structure Accounted (setting : Setting σ) (p : Progress σ) : Prop where
  sound : Sound setting p
  plainly : AnsweredPlainly setting p
  made : ∀ exchange ∈ p.exchanges, MadeByNode setting p exchange

section Answers

variable {setting : Setting σ} {path : List String} {job : Job} {p q : Progress σ}
  {r : Except Fault Signal × Progress σ}

/-- An exchange may be added if it is answered plainly or reads a wired socket. -/
lemma AnsweredPlainly.record (hp : AnsweredPlainly setting p) {node : Node} {request : Request}
    {a : request.Answer} (hn : setting.graph.node? node.id = some node)
    (ha : IsLocal setting.graph node request →
      Plain setting.graph setting.context node request a) :
    AnsweredPlainly setting (record ⟨node.id, request, a⟩ p) := by
  intro exchange he node' hn' hl
  rcases List.mem_append.1 he with he | he
  · exact hp exchange he node' hn' hl
  · cases List.mem_singleton.1 he
    cases hn.symm.trans hn'
    exact ha hl

/-- Local requests are answered plainly throughout. -/
lemma Runs.answeredPlainly (h : Runs setting path job p r) (hf : Fits setting.graph job)
    (hp : AnsweredPlainly setting p) : AnsweredPlainly setting r.2 := by
  induction h with
  | overridden | recalled | cut | absent | done | fail => exact hp
  | entered _ _ _ hn _ ih => exact ih (fits_program hn) hp
  | failed _ _ _ hn _ ih => exact ih (fits_program hn) hp
  | wired hs _ _ ihv ih =>
    exact ih (hf.next _) ((ihv trivial hp).record hf.1 fun hl => absurd hs hl.not_wired)
  | broken _ _ ihv => exact ihv trivial hp
  | @met _ node request next p a q r hl hm _ ih =>
    have hq : AnsweredPlainly setting q := by
      rw [AnsweredPlainly, (meet_keeps hl hm).2.2]
      exact hp
    exact ih (hf.next _) (hq.record hf.1 fun _ => plain_of_meet hl hm)
  | refused hl hm =>
    rw [AnsweredPlainly, (meet_keeps hl hm).2.2]
    exact hp

/-- Where no cycle is reported, a whole evaluation is accounted for. -/
lemma run_accounted {triggers : Fields} {drawn : Nat} {outlet : σ} {x : Except Fault Appearance}
    (h : run setting (.start triggers drawn outlet) = (x, q))
    (hc : ∀ issue ∈ setting.graph.issues, issue.code ≠ "cycle") : Accounted setting q := by
  obtain rfl : (run setting (.start triggers drawn outlet)).2 = q := congrArg Prod.snd h
  refine ⟨run_keeps (fun id p hp => ?_) ⟨nofun, nofun⟩, run_keeps (fun id p hp => ?_) nofun,
    run_madeByNode setting triggers drawn outlet⟩
  · exact ((signal_runs setting id p).denotes hc (.outside id) hp).1
  · exact (signal_runs setting id p).answeredPlainly trivial hp

end Answers

section Comparison

variable {setting : Setting σ} {setting' : Setting σ'} {q : Progress σ} {q' : Progress σ'}

/-- **A request has one answer**, but for looks at triggers: settings in which every lookup finds
the same answer it alike. -/
lemma Accounted.answer_eq (hq : Accounted setting q) (hq' : Accounted setting' q')
    (hsteady : setting.graph.IsSteady) (halike : Resembles setting setting') {id : String}
    {request : Request} {a b : request.Answer} (hblind : Program.Blind request)
    (ha : ⟨id, request, a⟩ ∈ q.exchanges) (hb : ⟨id, request, b⟩ ∈ q'.exchanges) : b = a := by
  obtain ⟨-, node, kind, hn, hkind, hask⟩ := hq.made _ ha
  have hid : node.id = id := Graph.id_of_node? hn
  rcases isLocal_or_reads setting.graph node request with hl | ⟨socket, source, rfl, hs⟩
  · have hn' : setting'.graph.node? id = some node := (halike.graph.node id).trans hn
    have hl' : IsLocal setting'.graph node request := fun socket h =>
      (halike.graph.source _ _).trans (hl socket h)
    have hpa : Plain setting.graph setting.context node request a := hq.plainly _ ha node hn hl
    have hpb : Plain setting.graph setting.context node request b :=
      (hq'.plainly _ hb node hn' hl').congr halike.symm
    cases request with
    | sample =>
      obtain rfl : kind = .random := hask
      exact absurd hkind (hsteady node (List.mem_of_find?_eq_some hn))
    | edge v => exact absurd rfl (hblind v)
    | fire action => rfl
    | _ => exact hpb.unique hpa nofun nofun nofun
  · rw [hid] at hs
    have hda := hq.sound.reads _ _ _ _ ha hs
    have hdb := hq'.sound.reads _ _ _ _ hb ((halike.graph.source _ _).trans hs)
    exact hda.unique hsteady trivial (hdb.congr halike.symm)

end Comparison

/-! ## One dialogue -/

/-- **A dialogue is fixed by the answers in it**, looks at the trigger apart, which are fixed by
what is remembered of it.

**Proof sketch.** Induction on one dialogue. The other one makes the same request, gets the same
answer, and goes on with the same program. -/
lemma Dialogue.unique {α : Type} {id : String} {program : Program α}
    {last final final' : Option Value} {exchanges exchanges' : List Exchange} {a a' : α}
    (h : Dialogue id program last exchanges final a)
    (h' : Dialogue id program last exchanges' final' a')
    (hsame : ∀ (request : Request) (b b' : request.Answer), Program.Blind request →
      ⟨id, request, b⟩ ∈ exchanges → ⟨id, request, b'⟩ ∈ exchanges' → b' = b) :
    exchanges' = exchanges ∧ final' = final ∧ a' = a := by
  induction h generalizing exchanges' with
  | done =>
    cases h'
    exact ⟨rfl, rfl, rfl⟩
  | @ask request next b last new final rest result ht _ ih =>
    obtain _ | @⟨_, _, b', _, new', _, rest', _, ht', h'⟩ := h'
    obtain ⟨rfl, rfl⟩ : b' = b ∧ new' = new := by
      by_cases hblind : Program.Blind request
      · obtain rfl := hsame request b b' hblind List.mem_cons_self List.mem_cons_self
        cases request with
        | edge v => exact absurd rfl (hblind v)
        | _ => exact ⟨rfl, ht'.trans ht.symm⟩
      · obtain ⟨v, rfl⟩ : ∃ v, request = .edge v := by
          simpa [Program.Blind] using hblind
        exact ⟨ht'.1.trans ht.1.symm, ht'.2.trans ht.2.symm⟩
    obtain ⟨rfl, rfl, rfl⟩ := ih h' fun request b b' hblind hb hb' =>
      hsame request b b' hblind (List.mem_cons_of_mem _ hb) (List.mem_cons_of_mem _ hb')
    exact ⟨rfl, rfl, rfl⟩

/-! ## The same events -/

/-- The exchanges that fire an action. -/
def fired (exchanges : List Exchange) : List Exchange :=
  exchanges.filter fun exchange => exchange.request matches .fire _

/-- Exchanges that are the same for every node differ at most in how those of different nodes are
interleaved. -/
lemma perm_of_own {l l' : List Exchange} (h : ∀ id, own id l' = own id l) : l'.Perm l := by
  classical
  refine List.perm_iff_count.2 fun exchange => ?_
  have hcount (l : List Exchange) : (own exchange.node l).count exchange = l.count exchange :=
    List.count_filter (by simp)
  rw [← hcount l', h, hcount l]

/-- Events come of the exchanges that fire. -/
lemma events_fired (graph : Graph) (exchanges : List Exchange) :
    events graph (fired exchanges) = events graph exchanges := by
  rw [events, fired, List.filterMap_filter, events]
  refine congrArg (List.filterMap · exchanges) (funext fun exchange => ?_)
  obtain ⟨id, request, a⟩ := exchange
  cases request <;> rfl

/-- **Nodes that fire alike fire the same events**, in any order. -/
lemma perm_events {graph graph' : Graph} (hid : graph'.id = graph.id) {l l' : List Exchange}
    (h : ∀ id, fired (own id l') = fired (own id l)) :
    (events graph' l').Perm (events graph l) := by
  have hfired : (fired l').Perm (fired l) := perm_of_own fun id => by
    rw [own, fired, List.filter_comm, own, fired, List.filter_comm (l := l)]
    exact h id
  rw [← events_fired, ← events_fired graph]
  have hsame : events graph' (fired l') = events graph (fired l') := by
    simp only [events, hid]
  rw [hsame]
  exact hfired.filterMap _

/-! ## The same appearance -/

/-- What a socket of the output node gives: nothing if it is not wired, else the meaning of what
feeds it. -/
def Gives (setting : Setting σ) (output : Node) (socket : String) (v : Option Value) : Prop :=
  (setting.graph.source? output.id socket = none ∧ v = none) ∨
    ∃ source s, setting.graph.source? output.id socket = some source ∧ v = some s.value ∧
      Denotes setting.graph setting.overrides setting.context (.value source) s

section Display

variable {setting : Setting σ} {setting' : Setting σ'} {output : Node} {socket : String}
  {p q : Progress σ} {p' q' : Progress σ'} {a a' : Appearance}

/-- Where no cycle is reported, the action pass remembers and reads what is meant. -/
lemma visitAll_sound {nodes : List Node} {x : Except Fault Unit}
    (h : visitAll setting nodes p = (x, q))
    (hc : ∀ issue ∈ setting.graph.issues, issue.code ≠ "cycle") (hp : Sound setting p) :
    Sound setting q := by
  obtain rfl : (visitAll setting nodes p).2 = q := congrArg Prod.snd h
  refine visitAll_keeps (fun id p hp => ?_) nodes hp
  exact ((signal_runs setting id p).denotes hc (.outside id) hp).1

/-- Where no cycle is reported, a socket of the output node gives what it means. -/
lemma outputSocket_gives {v : Option Value}
    (h : outputSocket setting output socket p = (.ok v, q))
    (hc : ∀ issue ∈ setting.graph.issues, issue.code ≠ "cycle") (hp : Sound setting p) :
    Gives setting output socket v ∧ Sound setting q := by
  rw [outputSocket] at h
  rcases hsource : setting.graph.source? output.id socket with _ | source
  · rw [hsource] at h
    cases h
    exact ⟨.inl ⟨hsource, rfl⟩, hp⟩
  · simp only [hsource] at h
    rcases hs : signal setting source p with ⟨_ | s, q'⟩
    · rw [hs] at h
      cases h
    · rw [hs] at h
      cases h
      obtain ⟨hq, hden⟩ := (runs_of_signal hs).denotes hc (.outside source) hp
      exact ⟨.inr ⟨source, s, hsource, rfl, hden s rfl⟩, hq⟩

/-- Settings in which every lookup finds the same give the same. -/
lemma Gives.unique {v v' : Option Value} (h : Gives setting output socket v)
    (h' : Gives setting' output socket v') (hsteady : setting.graph.IsSteady)
    (halike : Resembles setting setting') : v' = v := by
  rw [Gives, halike.graph.source] at h'
  rcases h with ⟨hs, rfl⟩ | ⟨source, s, hs, rfl, hden⟩ <;>
    rcases h' with ⟨hs', rfl⟩ | ⟨source', s', hs', rfl, hden'⟩ <;> cases hs.symm.trans hs'
  · rfl
  · rw [hden.unique hsteady trivial (hden'.congr halike.symm)]

/-- Settings in which every lookup finds the same display the same. -/
lemma display_unique (h : display setting p = (.ok a, q)) (h' : display setting' p' = (.ok a', q'))
    (hc : ∀ issue ∈ setting.graph.issues, issue.code ≠ "cycle")
    (hc' : ∀ issue ∈ setting'.graph.issues, issue.code ≠ "cycle")
    (hp : Sound setting p) (hp' : Sound setting' p') (hsteady : setting.graph.IsSteady)
    (halike : Resembles setting setting') : a' = a := by
  rcases hout : setting.graph.output? with _ | output
  · rw [display, hout] at h
    rw [display, halike.graph.output, hout] at h'
    cases h
    cases h'
    rfl
  obtain ⟨style, content, p₁, hs, ht, hstyle, hcontent⟩ := display_ok hout h
  obtain ⟨style', content', p₁', hs', ht', hstyle', hcontent'⟩ :=
    display_ok (halike.graph.output.trans hout) h'
  obtain ⟨hgives, hp₁⟩ := outputSocket_gives hs hc hp
  obtain ⟨hgives', hp₁'⟩ := outputSocket_gives hs' hc' hp'
  obtain rfl := hgives.unique hgives' hsteady halike
  obtain rfl := (outputSocket_gives ht hc hp₁).1.unique (outputSocket_gives ht' hc' hp₁').1
    hsteady halike
  obtain ⟨_, _⟩ := a
  obtain ⟨_, _⟩ := a'
  cases hstyle.trans hstyle'.symm
  cases hcontent.symm.trans hcontent'
  rfl

/-- Whole evaluations in settings in which every lookup finds the same display the same. -/
lemma run_unique (h : run setting p = (.ok a, q)) (h' : run setting' p' = (.ok a', q'))
    (hc : ∀ issue ∈ setting.graph.issues, issue.code ≠ "cycle")
    (hc' : ∀ issue ∈ setting'.graph.issues, issue.code ≠ "cycle")
    (hp : Sound setting p) (hp' : Sound setting' p') (hsteady : setting.graph.IsSteady)
    (halike : Resembles setting setting') : a' = a := by
  obtain ⟨p₁, hall, hdisplay⟩ := run_ok h
  obtain ⟨p₁', hall', hdisplay'⟩ := run_ok h'
  exact display_unique hdisplay hdisplay' hc hc' (visitAll_sound hall hc hp)
    (visitAll_sound hall' hc' hp') hsteady halike

end Display

/-! ## Whole evaluations -/

section Whole

variable {setting : Setting σ} {setting' : Setting σ'} {triggers triggers' : Fields}
  {drawn drawn' : Nat} {outlet : σ} {outlet' : σ'} {a a' : Appearance} {q : Progress σ}
  {q' : Progress σ'}

/-- An action that is not overridden has the same dialogue in settings in which every lookup finds
the same. -/
lemma own_unique (h : run setting (.start triggers drawn outlet) = (.ok a, q))
    (h' : run setting' (.start triggers' drawn' outlet') = (.ok a', q'))
    (hq : Accounted setting q) (hq' : Accounted setting' q') (hsteady : setting.graph.IsSteady)
    (halike : Resembles setting setting')
    (htriggers : ∀ id, Fields.get? triggers' id = Fields.get? triggers id) {node : Node}
    (hn : setting.graph.node? node.id = some node) (hact : node.isAction = true)
    (ho : Fields.get? setting.overrides node.id = none) :
    own node.id q'.exchanges = own node.id q.exchanges ∧
      Fields.get? q'.triggers node.id = Fields.get? q.triggers node.id := by
  obtain ⟨-, o, hdialogue⟩ := run_finishes h hn hact ho
  obtain ⟨-, o', hdialogue'⟩ := run_finishes h' ((halike.graph.node _).trans hn) hact
    ((halike.overrides _).trans ho)
  rw [htriggers] at hdialogue'
  obtain ⟨hown, htrigger, -⟩ := hdialogue.unique hdialogue' fun request b b' hblind hb hb' =>
    hq.answer_eq hq' hsteady halike hblind (List.mem_filter.1 hb).1 (List.mem_filter.1 hb').1
  exact ⟨hown, htrigger⟩

/-- Only actions fire. -/
lemma Accounted.fired_eq_nil (hq : Accounted setting q) {id : String}
    (hid : ∀ node, setting.graph.node? id = some node → node.isAction = false) :
    fired (own id q.exchanges) = [] := by
  refine List.filter_eq_nil_iff.2 fun exchange he hfire => ?_
  obtain ⟨he, hown⟩ := List.mem_filter.1 he
  obtain ⟨-, node, kind, hn, hkind, hask⟩ := hq.made exchange he
  obtain ⟨other, request, answer⟩ := exchange
  obtain rfl : other = id := by simpa using hown
  have hquiet : kind.isAction ≠ true := by
    simpa [Node.isAction, hkind] using hid node hn
  cases request with
  | fire action => exact hquiet hask
  | _ => cases hfire

/-- Every id fires alike, and has the same remembered of its trigger, in settings in which every
lookup finds the same. -/
lemma fired_unique (h : run setting (.start triggers drawn outlet) = (.ok a, q))
    (h' : run setting' (.start triggers' drawn' outlet') = (.ok a', q'))
    (hq : Accounted setting q) (hq' : Accounted setting' q') (hsteady : setting.graph.IsSteady)
    (halike : Resembles setting setting')
    (htriggers : ∀ id, Fields.get? triggers' id = Fields.get? triggers id) (id : String) :
    fired (own id q'.exchanges) = fired (own id q.exchanges) ∧
      Fields.get? q'.triggers id = Fields.get? q.triggers id := by
  rcases ho : Fields.get? setting.overrides id with _ | v
  · by_cases hid : ∀ node, setting.graph.node? id = some node → node.isAction = false
    · have hid' : ∀ node, setting'.graph.node? id = some node → node.isAction = false := by
        rwa [halike.graph.node]
      have hspares := run_spares triggers drawn outlet hid
      have hspares' := run_spares triggers' drawn' outlet' hid'
      rw [h] at hspares
      rw [h'] at hspares'
      refine ⟨by rw [hq.fired_eq_nil hid, hq'.fired_eq_nil hid'], ?_⟩
      exact hspares'.trans ((htriggers id).trans hspares.symm)
    · obtain ⟨node, hn, hact⟩ : ∃ node, setting.graph.node? id = some node ∧
          node.isAction = true := by
        simpa using hid
      obtain rfl := Graph.id_of_node? hn
      obtain ⟨hown, htrigger⟩ := own_unique h h' hq hq' hsteady halike htriggers hn hact ho
      exact ⟨congrArg fired hown, htrigger⟩
  · have hover : (Fields.get? setting.overrides id).isSome := by rw [ho]; rfl
    have hover' : (Fields.get? setting'.overrides id).isSome := by rwa [halike.overrides]
    obtain ⟨hown, htrigger⟩ := run_overridden triggers drawn outlet hover
    obtain ⟨hown', htrigger'⟩ := run_overridden triggers' drawn' outlet' hover'
    rw [h] at hown htrigger
    rw [h'] at hown' htrigger'
    exact ⟨by rw [hown, hown'], htrigger'.trans ((htriggers id).trans htrigger.symm)⟩

/-- **Authoring order changes at most the order of events.** Let validation find no problem in a
graph without random nodes, and let another graph have the same nodes and connections in any order.
Given the same overrides, the same context and equal memory of triggers, evaluations of the two
graphs that return display the same, fire and deliver the same events up to their order, and leave
equal memory of triggers. Samples, and where the events go, are free.

**Proof sketch.** The graphs agree in all their lookups, so every node has the same meaning in
both. An action has one dialogue in each of the evaluations, in which its reads are answered with
meanings, and so it is the same dialogue. -/
theorem run_rearranged (hvalid : setting.graph.validate false = .ok [])
    (hsteady : setting.graph.IsSteady) (hgraph : setting.graph.Rearranges setting'.graph)
    (hoverrides : ∀ id, Fields.get? setting'.overrides id = Fields.get? setting.overrides id)
    (hcontext : setting'.context = setting.context)
    (htriggers : ∀ id, Fields.get? triggers' id = Fields.get? triggers id)
    (h : run setting (.start triggers drawn outlet) = (.ok a, q))
    (h' : run setting' (.start triggers' drawn' outlet') = (.ok a', q')) :
    a' = a ∧ (events setting'.graph q'.exchanges).Perm (events setting.graph q.exchanges) ∧
      Delivered setting outlet q ∧ Delivered setting' outlet' q' ∧
      ∀ id, Fields.get? q'.triggers id = Fields.get? q.triggers id := by
  have hclean : setting.graph.IsClean := Graph.issues_eq_nil_iff.1 (Except.ok.inj hvalid)
  have hc : ∀ issue ∈ setting.graph.issues, issue.code ≠ "cycle" := by
    simp [Graph.issues_eq_nil_iff.2 hclean]
  have hc' : ∀ issue ∈ setting'.graph.issues, issue.code ≠ "cycle" := by
    simp [Graph.issues_eq_nil_iff.2 (hgraph.isClean hclean)]
  have halike : Resembles setting setting' := ⟨hgraph.looksUpAlike hclean, hoverrides, hcontext⟩
  have hfired := fired_unique h h' (run_accounted h hc) (run_accounted h' hc') hsteady halike
    htriggers
  refine ⟨run_unique h h' hc hc' ⟨nofun, nofun⟩ ⟨nofun, nofun⟩ hsteady halike, ?_,
    run_delivers h, run_delivers h', fun id => (hfired id).2⟩
  exact perm_events hgraph.id fun id => (hfired id).1

/-- A bell and a page request, both of which hear of a switch, and a text with a mark. -/
def desk : Graph :=
  ⟨[⟨"ring", "ALERT", [("value", .str "ding")]⟩, ⟨"go", "NAVIGATE", [("value", .str "home")]⟩,
      ⟨"on", "TOGGLE", [("value", .bool true)]⟩, ⟨"word", "TEXT", [("value", .str "go")]⟩,
      ⟨"join", "CONCAT", []⟩, ⟨"out", "OUTPUT", []⟩],
    [⟨"on", "ring", "in-trigger"⟩, ⟨"on", "go", "in-trigger"⟩, ⟨"word", "join", "in-a"⟩,
      ⟨"word", "join", "in-b"⟩, ⟨"join", "out", "in-content"⟩], .null, .null⟩

/-- The desk, authored the other way round. -/
def turnedDesk : Graph :=
  { desk with nodes := desk.nodes.reverse, connections := desk.connections.reverse }

/-- A desk as it is looked at, with a list of the events that it has fired. -/
def heard (graph : Graph) : Setting (List Event) :=
  ⟨graph, [], .initial, fun _ => 0.5, fun event heard => (none, heard ++ [event])⟩

/-- The turned desk shows the same and fires the same, in the other order. -/
theorem turned_desk_alike :
    let first := run (heard desk) (.start [] 0 [])
    let second := run (heard turnedDesk) (.start [] 0 [])
    first.1 = .ok ⟨[], some "gogo"⟩ ∧ second.1 = first.1 ∧
      first.2.outlet ≠ second.2.outlet ∧
      (events turnedDesk second.2.exchanges).Perm (events desk first.2.exchanges) ∧
      ∀ id, Fields.get? second.2.triggers id = Fields.get? first.2.triggers id := by
  intro first second
  have hfirst : first.1 = .ok ⟨[], some "gogo"⟩ := by decide
  have hsecond : second.1 = .ok ⟨[], some "gogo"⟩ := by decide
  have hvalid : (heard desk).graph.validate false = .ok [] :=
    congrArg Except.ok (by decide : desk.issues = [])
  have hturned : (heard desk).graph.Rearranges (heard turnedDesk).graph :=
    ⟨rfl, List.reverse_perm _, List.reverse_perm _⟩
  obtain ⟨-, hevents, -, -, htriggers⟩ := run_rearranged hvalid (by decide) hturned
    (fun _ => rfl) rfl (fun _ => rfl) (Prod.ext hfirst rfl) (Prod.ext hsecond rfl)
  exact ⟨hfirst, hsecond.trans hfirst.symm, by decide, hevents, htriggers⟩

end Whole

end Evaluation

end DesignGraph
