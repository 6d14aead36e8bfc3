import DesignGraph.Proofs.Evaluation.Faults
import DesignGraph.Proofs.Evaluation.Memory
import DesignGraph.Proofs.Evaluation.Order
import DesignGraph.Proofs.Operation.Makers
/-!
# A node overridden with its own value

An override cuts a node off from everything before it. If it gives the node the value that it has
anyway, then less is computed, but nothing else is: whatever is asked for in spite of the override
was asked for without it as well, and every program has the dialogue that it had then. Only the
maker of the value may be another one, which no program notices unless the value is a list or an
object.

The argument repeats one evaluation, which has returned, in the setting with the override. What it
has found is all that the repetition needs: the dialogue of every remembered node, and where every
answer in it has come from.

## Main definitions

* `DesignGraph.Evaluation.Setting.overriding` — the setting in which one more node is overridden.
* `DesignGraph.Evaluation.Settled` — the signal that an evaluation has found for a node.
* `DesignGraph.Evaluation.Precedent` — what an evaluation that has returned has found.
* `DesignGraph.Evaluation.Retraces` — an evaluation has found nothing else so far.
* `DesignGraph.Evaluation.Due` — what a job is to come to when it is repeated.
* `DesignGraph.Evaluation.IsOwnValue` — a value that an evaluation has found for a node.

## Main results

* `DesignGraph.Evaluation.run_precedent` — an evaluation that returns is a precedent.
* `DesignGraph.Evaluation.Runs.retraces` — the repetition comes to the same, step by step.
* `DesignGraph.Evaluation.run_overriding_own_value` — overriding a node with its own value changes
  nothing.
-/

set_option relaxedAutoImplicit false
set_option autoImplicit false

namespace DesignGraph

namespace Evaluation

variable {σ : Type} {setting : Setting σ} {p q r : Progress σ} {id source : String} {s t : Signal}

/-! ## What an evaluation has found -/

/-- The signal that an evaluation has found for the node `id`, where nothing was cut: it is the
override, null where there is no node, or what is remembered. -/
inductive Settled (setting : Setting σ) (q : Progress σ) (id : String) : Signal → Prop
  | overridden {v : Value} (hv : Fields.get? setting.overrides id = some v) :
    Settled setting q id ⟨v, id⟩
  | absent (ho : Fields.get? setting.overrides id = none) (hn : setting.graph.node? id = none) :
    Settled setting q id ⟨.null, id⟩
  | remembered {s : Signal} (hs : (id, s) ∈ q.memo) : Settled setting q id s

/-- What was found stays found. -/
lemma Settled.later (h : Settled setting q id s) (hmemo : q.memo ⊆ r.memo) :
    Settled setting r id s := by
  cases h with
  | overridden hv => exact .overridden hv
  | absent ho hn => exact .absent ho hn
  | remembered hs => exact .remembered (hmemo hs)

/-- What was found is meant. -/
lemma Settled.denotes (h : Settled setting q id s) (hq : Sound setting q) :
    Denotes setting.graph setting.overrides setting.context (.value id) s := by
  cases h with
  | overridden hv => exact .overridden hv
  | absent ho hn => exact .absent ho hn
  | remembered hs => exact hq.memo _ hs

/-- A request from outside that succeeds finds a signal. -/
lemma settled_of_signal (h : signal setting id p = (.ok s, q)) : Settled setting q id s := by
  cases runs_of_signal h with
  | overridden hv => exact .overridden hv
  | recalled _ hs => exact .remembered (mem_of_lookup hs)
  | cut _ _ hid => cases hid
  | absent ho _ _ hn => exact .absent ho hn
  | entered => exact .remembered (by simp)

/-- What was read has been found, if nothing was cut. -/
lemma Supplied.settled {reader : String} (h : Supplied setting q source reader s)
    (hs : Denotes setting.graph setting.overrides setting.context (.value source) s)
    (hcut : ∀ visit ∈ q.trail, visit.answer ≠ .cut) : Settled setting q source s := by
  cases hs with
  | overridden hv => exact .overridden hv
  | absent ho hn => exact .absent ho hn
  | computed ho hn =>
    cases h with
    | overridden hv => simp [ho] at hv
    | absent hnone => cases hnone.symm.trans hn
    | cut hvisit =>
      obtain ⟨path, hvisit⟩ := hvisit
      exact absurd rfl (hcut _ hvisit)
    | remembered hm => exact .remembered hm

/-- A row of requests that succeed finds signals for all nodes that are asked for. -/
lemma Asked.settled {ids : List String} (h : Asked setting ids p q) :
    p.memo ⊆ q.memo ∧ ∀ id ∈ ids, ∃ s, Settled setting q id s := by
  induction h with
  | nil => exact ⟨List.Subset.refl _, nofun⟩
  | @cons id ids p s q r hs _ ih =>
    refine ⟨List.Subset.trans (runs_of_signal hs).memo_subset ih.1, ?_⟩
    exact List.forall_mem_cons.2 ⟨⟨s, (settled_of_signal hs).later ih.1⟩, ih.2⟩

/-- The exchanges of a dialogue fix its result. -/
lemma Dialogue.result_unique {α : Type} {program : Program α} {a b : α}
    {last last' final final' : Option Value} {exchanges : List Exchange}
    (h : Dialogue id program last exchanges final a)
    (h' : Dialogue id program last' exchanges final' b) : b = a := by
  induction h generalizing last' with
  | done =>
    cases h'
    rfl
  | ask _ _ ih =>
    cases h' with
    | ask _ h' => exact ih h'

/-- What an evaluation has found that started with the given memory of triggers: the dialogues of
all nodes that are remembered, and where the answers in them have come from. -/
structure Precedent (setting : Setting σ) (triggers : Fields) (q : Progress σ) : Prop where
  /-- A node is remembered once. -/
  once : (q.memo.map Prod.fst).Nodup
  /-- A node that is remembered has had a dialogue, which started with the trigger given. -/
  dialogues : ∀ id s, (id, s) ∈ q.memo → Fields.get? setting.overrides id = none ∧
    ∃ node final o, setting.graph.node? id = some node ∧ o.signal id = s ∧
      Dialogue id node.program (Fields.get? triggers id) (own id q.exchanges) final o
  /-- What was read was found. -/
  reads : ∀ reader socket s source, ⟨reader, .read socket, s⟩ ∈ q.exchanges →
    setting.graph.source? reader socket = some source → Settled setting q source s
  /-- All other requests were answered plainly. -/
  plainly : AnsweredPlainly setting q

/-- **An evaluation that returns is a precedent**, where no cycle is reported. -/
theorem run_precedent {triggers : Fields} {drawn : Nat} {outlet : σ} {a : Appearance}
    (hc : ∀ issue ∈ setting.graph.issues, issue.code ≠ "cycle")
    (h : run setting (.start triggers drawn outlet) = (.ok a, q)) :
    Precedent setting triggers q := by
  obtain ⟨ids, hids, -⟩ := run_asked h
  have hreached : Reached setting q := by
    have hrun : Reached setting (run setting (.start triggers drawn outlet)).2 :=
      .run (.start triggers drawn outlet)
    rwa [h] at hrun
  have hrecounted := hids.recounted (recounted_start setting triggers drawn outlet)
  have haccounted := run_accounted h hc
  refine ⟨hreached.nodup_memo, fun id s hs => ?_, fun reader socket s source hread hsource => ?_,
    haccounted.plainly⟩
  · obtain ⟨ho, node, last, final, o, hn, hsignal, hd⟩ := hrecounted.results id s hs
    obtain rfl : node.id = id := Graph.id_of_node? hn
    obtain ⟨huntouched | hfinished, -⟩ :=
      hids.finishes hn ho (.inl (untouched_start _ triggers drawn outlet))
    · exact absurd hs (huntouched.fresh s)
    · obtain ⟨o', hd'⟩ := hfinished.dialogue
      obtain rfl := hd.result_unique hd'
      exact ⟨ho, node, _, o', hn, hsignal, hd'⟩
  · exact (hrecounted.reads reader socket s source hread hsource).settled
      (haccounted.sound.reads reader socket s source hread hsource) (hreached.not_cut hc)

/-! ## Repeating it -/

/-- The setting in which the node `id` is overridden with the value `v` as well. -/
def Setting.overriding (setting : Setting σ) (id : String) (v : Value) : Setting σ :=
  { setting with overrides := Fields.put id v setting.overrides }

/-- An evaluation has found nothing but what another one had found in the end. What it remembers
agrees with that, and the triggers of nodes whose programs it has not started are those given. -/
structure Retraces (q : Progress σ) (triggers : Fields) (Q : σ → Prop) (path : List String)
    (p : Progress σ) : Prop where
  memo : ∀ id t, (id, t) ∈ p.memo → ∃ s, (id, s) ∈ q.memo ∧ s.Agrees t
  triggers : ∀ id, id ∉ path → (∀ t, (id, t) ∉ p.memo) →
    Fields.get? p.triggers id = Fields.get? triggers id
  outlet : Q p.outlet

/-- What a job is to come to when an evaluation is repeated: the signal that was found, or what
comes of the rest of a dialogue that was had with a program that goes the same way. -/
inductive Due (setting : Setting σ) (q p : Progress σ) : Job → Signal → Prop
  | value {id : String} {s : Signal} (hs : Settled setting q id s) : Due setting q p (.value id) s
  | rest {node : Node} {program program' : Program Outcome} {exchanges : List Exchange}
    {final : Option Value} {o : Outcome} (hfollows : program.Follows Outcome.Agrees program')
    (hd : Dialogue node.id program (Fields.get? p.triggers node.id) exchanges final o)
    (hsub : exchanges ⊆ q.exchanges) : Due setting q p (.rest node program') (o.signal node.id)

/-- Whatever an evaluation that has returned has found for the node `n` has the value `v`, and the
evaluation can be repeated with `v` put in: no cycle is reported, nothing is random, no action is
refused, and who made `v` does not matter. -/
structure IsOwnValue (setting : Setting σ) (triggers : Fields) (Q : σ → Prop) (q : Progress σ)
    (n : String) (v : Value) : Prop where
  acyclic : ∀ issue ∈ setting.graph.issues, issue.code ≠ "cycle"
  steady : setting.graph.IsSteady
  welcomes : setting.Welcomes Q
  precedent : Precedent setting triggers q
  found : ∀ s, Settled setting q n s → s.value = v
  notObject : v.isObject = false

/-- Two plain answers to one request agree and leave the same trigger. -/
lemma answersAgree_of_plain {graph : Graph} {context : Context} {node : Node} {request : Request}
    {a b : request.Answer} {last new new' : Option Value} (hsample : request ≠ .sample)
    (ha : Plain graph context node request a) (hb : Plain graph context node request b)
    (ht : Turns request a last new) (ht' : Turns request b last new') :
    request.AnswersAgree a b ∧ new' = new := by
  cases request with
  | read socket =>
    refine ⟨?_, Eq.trans ht' (Eq.symm ht)⟩
    rw [ha.2, hb.2]
    exact .refl _ _
  | sample => exact absurd rfl hsample
  | edge v => exact ⟨Eq.trans ht'.1 ht.1.symm, ht'.2.trans ht.2.symm⟩
  | fire action => exact ⟨rfl, Eq.trans ht' (Eq.symm ht)⟩
  | isWired | hovered | clicked | time =>
    exact ⟨Eq.trans hb (Eq.symm ha), Eq.trans ht' (Eq.symm ht)⟩

/-- What an evaluation that is a precedent has found for a node is one signal. -/
lemma Precedent.settled_unique {triggers : Fields} (h : Precedent setting triggers q)
    (hs : Settled setting q id s) (ht : (id, t) ∈ q.memo) : t = s := by
  obtain ⟨ho, node, -, -, hn, -⟩ := h.dialogues id t ht
  cases hs with
  | overridden hv => cases ho.symm.trans hv
  | absent _ hnone => cases hnone.symm.trans hn
  | remembered hs => exact congrArg Prod.snd (List.inj_on_of_nodup_map h.once ht hs rfl)

/-- A node that is entered was entered before, and it is due what was remembered of it. -/
lemma Precedent.enter {triggers : Fields} {node : Node} (h : Precedent setting triggers q)
    (hs : Settled setting q id s) (ho : Fields.get? setting.overrides id = none)
    (hn : setting.graph.node? id = some node)
    (htrigger : Fields.get? p.triggers id = Fields.get? triggers id) (path : List String) :
    (id, s) ∈ q.memo ∧ Due setting q (note id path .entered p) (.rest node node.program) s := by
  cases hs with
  | overridden hv => cases ho.symm.trans hv
  | absent _ hnone => cases hnone.symm.trans hn
  | remembered hs =>
    obtain rfl := Graph.id_of_node? hn
    obtain ⟨-, node', final, o, hn', rfl, hd⟩ := h.dialogues _ s hs
    cases hn.symm.trans hn'
    rw [← htrigger] at hd
    exact ⟨hs, .rest node.program_follows hd (List.filter_subset_self _)⟩

/-- A request was made before as well, and if the answer agrees with the one of then, what is due
stays so. -/
lemma Due.ask {node : Node} {request : Request} {next : request.Answer → Program Outcome}
    (h : Due setting q p (.rest node (.ask request next)) s) :
    ∃ a new, ⟨node.id, request, a⟩ ∈ q.exchanges ∧
      Turns request a (Fields.get? p.triggers node.id) new ∧
      ∀ b (r : Progress σ), request.AnswersAgree a b → Fields.get? r.triggers node.id = new →
        Due setting q r (.rest node (next b)) s := by
  obtain - | ⟨hfollows, hd, hsub⟩ := h
  cases hfollows with
  | ask hnext =>
    cases hd with
    | @ask _ _ a _ new _ _ _ ht hd =>
      rw [List.cons_subset] at hsub
      refine ⟨a, new, hsub.1, ht, fun b r hagree hnew => ?_⟩
      rw [← hnew] at hd
      exact .rest (hnext a b hagree) hd hsub.2

section Retraces

variable {triggers : Fields} {Q : σ → Prop} {path : List String} {setting' : Setting σ}
  {node : Node}

/-- Notes of visits do not count. -/
lemma Retraces.note (h : Retraces q triggers Q path p) (id : String) (path' : List String)
    (answer : Answer) : Retraces q triggers Q path (note id path' answer p) :=
  ⟨h.memo, h.triggers, h.outlet⟩

/-- A program may be started. -/
lemma Retraces.enter (h : Retraces q triggers Q path p) (id : String) :
    Retraces q triggers Q (id :: path) (Evaluation.note id path .entered p) :=
  ⟨h.memo, fun _ hother => h.triggers _ fun hmem => hother (List.mem_cons_of_mem _ hmem), h.outlet⟩

/-- What a program that ends comes to may be remembered if it agrees with what was found. -/
lemma Retraces.remember (h : Retraces q triggers Q (id :: path) p) (hs : (id, s) ∈ q.memo)
    (hagree : s.Agrees t) :
    Retraces q triggers Q path { p with memo := p.memo ++ [(id, t)] } where
  memo other u hu := by
    rcases List.mem_append.1 hu with hu | hu
    · exact h.memo other u hu
    · cases List.mem_singleton.1 hu
      exact ⟨s, hs, hagree⟩
  triggers other hother hfresh := by
    refine h.triggers other ?_ fun u hu => hfresh u (List.mem_append_left _ hu)
    rintro (_ | ⟨_, hmem⟩)
    · exact hfresh t (List.mem_append_right _ List.mem_cons_self)
    · exact hother hmem
  outlet := h.outlet

/-- Exchanges do not count. -/
lemma Retraces.record (h : Retraces q triggers Q path p) (exchange : Exchange) :
    Retraces q triggers Q path (Evaluation.record exchange p) :=
  ⟨h.memo, h.triggers, h.outlet⟩

/-- A running program may make a local request. -/
lemma Retraces.meet (h : Retraces q triggers Q path p) (hpost : setting'.Welcomes Q)
    (hpath : node.id ∈ path) {request : Request} {a : request.Answer}
    (hl : IsLocal setting'.graph node request)
    (hm : ∀ read, Evaluation.meet setting' node read request p = (.ok a, r)) :
    Retraces q triggers Q path r where
  memo := (meet_keeps hl hm).1 ▸ h.memo
  triggers id hid hfresh := by
    have hne : node.id ≠ id := by
      rintro rfl
      exact hid hpath
    rw [meet_spares hl hm fun _ _ => hne]
    exact h.triggers id hid ((meet_keeps hl hm).1 ▸ hfresh)
  outlet := by
    obtain rfl := eq_effect_of_meet hl hm
    exact Setting.requestKeeps_of_post hpost.keeps node request p h.outlet

end Retraces

section Overriding

variable {n : String} {v : Value} {triggers : Fields} {Q : σ → Prop}

/-- The override of the one node comes before all others. -/
lemma get?_overriding (setting : Setting σ) (n : String) (v : Value) (id : String) :
    Fields.get? (setting.overriding n v).overrides id =
      if n = id then some v else Fields.get? setting.overrides id :=
  Fields.get?_put _ _ _ _

/-- A node that is not overridden now was not overridden before. -/
lemma get?_of_overriding (ho : Fields.get? (setting.overriding n v).overrides id = none) :
    Fields.get? setting.overrides id = none := by
  rw [get?_overriding] at ho
  split at ho
  · cases ho
  · exact ho

variable (hv : IsOwnValue setting triggers Q q n v)
include hv

/-- **The repetition comes to the same**, step by step, and never fails.

**Proof sketch.** Induction on the rules of the repetition. What is asked for was asked for before:
a node that is entered now was remembered then, and its program, which starts with the same trigger,
is answered with signals that agree, so it goes on as it did then. A node that is overridden now has
the value that was found for it, which is no list and no object. -/
theorem Runs.retraces {path : List String} {job : Job} {r : Except Fault Signal × Progress σ}
    (h : Runs (setting.overriding n v) path job p r) (hw : Waiting setting.graph path job)
    (hf : Fits setting.graph job) (hp : Retraces q triggers Q path p) (hs : Due setting q p job s) :
    ∃ t, r.1 = .ok t ∧ s.Agrees t ∧ Retraces q triggers Q path r.2 := by
  have hprec := hv.precedent
  have hpost : (setting.overriding n v).Welcomes Q := ⟨hv.welcomes.accepts, hv.welcomes.keeps⟩
  induction h generalizing s with
  | @overridden path id p w hover =>
    obtain ⟨hs⟩ := hs
    refine ⟨_, rfl, ?_, hp.note _ _ _⟩
    rw [get?_overriding] at hover
    split at hover
    · subst ‹n = id›
      cases hover
      have hsame := hv.found s hs
      exact ⟨hsame.symm, fun hobj => absurd (hsame ▸ hobj) (by simp [hv.notObject])⟩
    · cases hs with
      | overridden hover' =>
        cases hover.symm.trans hover'
        exact .refl _
      | absent ho => cases ho.symm.trans hover
      | remembered hs => cases (hprec.dialogues id s hs).1.symm.trans hover
  | @recalled path id p t _ ht =>
    obtain ⟨hs⟩ := hs
    obtain ⟨s', hs', hagree⟩ := hp.memo id t (mem_of_lookup ht)
    obtain rfl := hprec.settled_unique hs hs'
    exact ⟨t, rfl, hagree, hp.note _ _ _⟩
  | cut _ _ hid => exact absurd hid (hw.not_mem hv.acyclic)
  | absent ho _ _ hn =>
    obtain ⟨hs⟩ := hs
    refine ⟨_, rfl, ?_, hp.note _ _ _⟩
    cases hs with
    | overridden hover => cases (get?_of_overriding ho).symm.trans hover
    | absent => exact .refl _
    | remembered hs =>
      obtain ⟨-, node, -, -, hn', -⟩ := hprec.dialogues _ s hs
      cases hn.symm.trans hn'
  | @entered path id p node t p' ho hm hid hn _ ih =>
    obtain ⟨hs⟩ := hs
    obtain ⟨hs, hdue⟩ := hprec.enter hs (get?_of_overriding ho) hn
      (hp.triggers id hid (not_mem_of_lookup hm)) path
    obtain ⟨_, ⟨⟩, hagree, hp'⟩ := ih (hw.enter hn) (fits_program hn) (hp.enter id) hdue
    exact ⟨t, rfl, hagree, hp'.remember hs hagree⟩
  | @failed path id p node f p' ho hm hid hn _ ih =>
    obtain ⟨hs⟩ := hs
    obtain ⟨-, hdue⟩ := hprec.enter hs (get?_of_overriding ho) hn
      (hp.triggers id hid (not_mem_of_lookup hm)) path
    obtain ⟨_, ⟨⟩, -⟩ := ih (hw.enter hn) (fits_program hn) (hp.enter id) hdue
  | done =>
    obtain - | ⟨hfollows, hd, -⟩ := hs
    cases hfollows with
    | done hagree =>
      cases hd
      exact ⟨_, rfl, hagree.signal _, hp⟩
  | fail =>
    obtain - | ⟨hfollows, hd, -⟩ := hs
    cases hfollows
    cases hd
  | @wired path node socket next p source t p' r hsource hread' _ ihv ih =>
    obtain ⟨a, new, hread, hnew, hnext⟩ := hs.ask
    have ha := hprec.reads node.id socket a source hread hsource
    obtain ⟨_, ⟨⟩, hagree, hp'⟩ := ihv (hw.read hsource) trivial hp (.value ha)
    -- the reader is running, so nobody looks at its trigger meanwhile
    have hpath : node.id ∈ path := List.mem_of_head? hw.chain.2
    have htrigger := (hread'.frame (.inr (.inr hpath)) trivial).2
    exact ih hw.go_on (hf.next _) (hp'.record _) (hnext t _ hagree (htrigger.trans hnew.symm))
  | broken hsource _ ihv =>
    obtain ⟨a, -, hread, -⟩ := hs.ask
    have ha := hprec.reads _ _ a _ hread hsource
    obtain ⟨_, ⟨⟩, -⟩ := ihv (hw.read hsource) trivial hp (.value ha)
  | @met path node request next p a p' r hl hm _ ih =>
    obtain ⟨b, new, hmade, hnew, hnext⟩ := hs.ask
    have hb := hprec.plainly _ hmade node hf.1 hl
    obtain ⟨hagree, htrigger⟩ := answersAgree_of_plain (hf.not_sample hv.steady) hb
      (plain_of_meet hl hm) hnew (meet_turns hl hm)
    have hpath : node.id ∈ path := List.mem_of_head? hw.chain.2
    exact ih hw.go_on (hf.next _) ((hp.meet hpost hpath hl hm).record _)
      (hnext a _ hagree htrigger)
  | refused hl hm => exact (not_refused hpost hp.outlet hl hm).elim

/-! ## Whole evaluations -/

/-- A request from outside for a node that was found is repeated. -/
lemma signal_retraces (hs : Settled setting q id s) (hp : Retraces q triggers Q [] p) :
    ∃ t p', signal (setting.overriding n v) id p = (.ok t, p') ∧ s.Agrees t ∧
      Retraces q triggers Q [] p' := by
  obtain ⟨t, ht, hagree, hp'⟩ := (signal_runs (setting.overriding n v) id p).retraces hv
    (.outside id) trivial hp (.value hs)
  exact ⟨t, _, Prod.ext ht rfl, hagree, hp'⟩

/-- The action pass is repeated. -/
lemma visitAll_retraces {nodes : List Node}
    (hnodes : ∀ id ∈ nodes.map (·.id), ∃ s, Settled setting q id s)
    (hp : Retraces q triggers Q [] p) :
    ∃ p', visitAll (setting.overriding n v) nodes p = (.ok (), p') ∧
      Retraces q triggers Q [] p' := by
  induction nodes generalizing p with
  | nil => exact ⟨p, rfl, hp⟩
  | cons node rest ih =>
    rw [List.map_cons, List.forall_mem_cons] at hnodes
    obtain ⟨⟨s, hs⟩, hrest⟩ := hnodes
    obtain ⟨t, p₁, ht, -, hp₁⟩ := signal_retraces hv hs hp
    obtain ⟨p', hall, hp'⟩ := ih hrest hp₁
    exact ⟨p', by simp only [visitAll, ht, hall], hp'⟩

/-- A socket of the output node gives what it gave. -/
lemma outputSocket_retraces {output : Node} {socket : String} {x : Option Value}
    {p₁ q₁ : Progress σ} (h : outputSocket setting output socket p₁ = (.ok x, q₁))
    (hlater : q₁.memo ⊆ q.memo) (hp : Retraces q triggers Q [] p) :
    ∃ p', outputSocket (setting.overriding n v) output socket p = (.ok x, p') ∧
      Retraces q triggers Q [] p' := by
  have hgraph : (setting.overriding n v).graph = setting.graph := rfl
  rw [outputSocket] at h
  simp only [outputSocket, hgraph]
  rcases hsource : setting.graph.source? output.id socket with _ | source
  · rw [hsource] at h
    cases h
    exact ⟨p, rfl, hp⟩
  · simp only [hsource] at h
    rcases hs : signal setting source p₁ with ⟨_ | s, q₂⟩ <;> rw [hs] at h <;> cases h
    have hfound := (settled_of_signal hs).later hlater
    obtain ⟨t, p', ht, hagree, hp'⟩ := signal_retraces hv hfound hp
    exact ⟨p', by simp only [ht, hagree.value], hp'⟩

/-- What is displayed is displayed again. -/
lemma display_retraces {p₁ : Progress σ} {a : Appearance} (h : display setting p₁ = (.ok a, q))
    (hp : Retraces q triggers Q [] p) :
    ∃ p', display (setting.overriding n v) p = (.ok a, p') := by
  have hgraph : (setting.overriding n v).graph = setting.graph := rfl
  rcases hout : setting.graph.output? with _ | output
  · rw [display, hout] at h
    cases h
    exact ⟨p, by rw [display, hgraph, hout]⟩
  obtain ⟨style, content, q₁, hstyle, hcontent, hastyle, htext⟩ := display_ok hout h
  obtain ⟨ids, hids, -⟩ := outputSocket_asked hcontent
  obtain ⟨p₂, hstyle', hp₂⟩ := outputSocket_retraces hv hstyle hids.settled.1 hp
  obtain ⟨p', hcontent', -⟩ := outputSocket_retraces hv hcontent (List.Subset.refl _) hp₂
  exact ⟨p', display_of_ok (hgraph.symm ▸ hout) hstyle' hcontent' hastyle htext⟩

end Overriding

/-- **Overriding a node with its own value changes nothing.** In a graph without reported cycles and
without random nodes, let a node have a value that is no list and no object when it is asked for on
its own. If an evaluation with the same overrides and the same context returns, then it also does so
with this value as a further override of the node, and the style, in its order, and the content are
the same.

**Proof sketch.** The evaluation that returns is a precedent, and the node has one meaning in both
evaluations. So the evaluation with the override repeats the other one. -/
theorem run_overriding_own_value {Q : σ → Prop} {n : String} {triggers triggers' : Fields}
    {drawn drawn' : Nat} {outlet outlet' : σ} {a : Appearance}
    (hc : ∀ issue ∈ setting.graph.issues, issue.code ≠ "cycle")
    (hsteady : setting.graph.IsSteady) (hpost : setting.Welcomes Q) (houtlet : Q outlet)
    (hs : (signal setting n (.start triggers' drawn' outlet')).1 = .ok s)
    (hobject : s.value.isObject = false)
    (h : run setting (.start triggers drawn outlet) = (.ok a, q)) :
    ∃ q', run (setting.overriding n s.value) (.start triggers drawn outlet) = (.ok a, q') := by
  have hmeaning : Denotes setting.graph setting.overrides setting.context (.value n) s :=
    ((signal_runs setting n _).denotes hc (.outside n)
      ((Reached.start triggers' drawn' outlet').sound hc)).2 s hs
  have hv : IsOwnValue setting triggers Q q n s.value := by
    refine ⟨hc, hsteady, hpost, run_precedent hc h, fun t ht => ?_, hobject⟩
    have ht' := ht.denotes (run_accounted h hc).sound
    exact congrArg Signal.value (hmeaning.unique hsteady trivial ht')
  have hstart : Retraces q triggers Q [] (.start triggers drawn outlet) :=
    ⟨nofun, fun _ _ _ => rfl, houtlet⟩
  obtain ⟨q₁, hall, hdisplay⟩ := run_ok h
  obtain ⟨ids, hids, -⟩ := display_asked hdisplay
  obtain ⟨p₁, hall', hp₁⟩ := visitAll_retraces hv
    (fun id hid => ((visitAll_asked hall).settled.2 id hid).imp fun _ ht => ht.later hids.settled.1)
    hstart
  obtain ⟨q', hdisplay'⟩ := display_retraces hv hdisplay hp₁
  have hgraph : (setting.overriding n s.value).graph = setting.graph := rfl
  exact ⟨q', by simp only [run, hgraph, hall', hdisplay']⟩

/-- A number and its square, which together make up a text and a style, and a bell that hears of the
square. -/
def label : Graph :=
  ⟨[⟨"n", "NUMBER", [("value", .int 3)]⟩, ⟨"m", "MULTIPLY", []⟩, ⟨"t", "CONCAT", []⟩,
      ⟨"s", "STYLE", []⟩, ⟨"bell", "ALERT", [("value", .str "ding")]⟩, ⟨"out", "OUTPUT", []⟩],
    [⟨"n", "m", "in-a"⟩, ⟨"n", "m", "in-b"⟩, ⟨"m", "t", "in-a"⟩, ⟨"n", "t", "in-b"⟩,
      ⟨"t", "s", "in-text"⟩, ⟨"m", "s", "in-size"⟩, ⟨"m", "bell", "in-trigger"⟩,
      ⟨"s", "out", "in-style"⟩, ⟨"t", "out", "in-content"⟩], .null, .null⟩

/-- The label is the same with its square put in by hand. -/
theorem label_with_square_put_in :
    let shown : Appearance := ⟨[("color", .str "93"), ("fontSize", .float 9)], some "93"⟩
    (signal (.alone label) "m" (.start [] 0 ())).1 = .ok ⟨.float 9, "m"⟩ ∧
    (run (.alone label) (.start [] 0 ())).1 = .ok shown ∧
    ∃ q, run ((Setting.alone label).overriding "m" (.float 9)) (.start [] 0 ()) =
      (.ok shown, q) := by
  intro shown
  have hwelcomes : (Setting.alone label).Welcomes fun _ => True :=
    ⟨fun _ _ _ _ => rfl, fun _ _ _ => trivial⟩
  have hnine : (signal (.alone label) "m" (.start [] 0 ())).1 = .ok ⟨.float 9, "m"⟩ := by
    decide +kernel
  have hshown : (run (.alone label) (.start [] 0 ())).1 = .ok shown := by decide +kernel
  have hc : ∀ issue ∈ (Setting.alone label).graph.issues, issue.code ≠ "cycle" := by decide
  have hsteady : (Setting.alone label).graph.IsSteady := by decide
  refine ⟨hnine, hshown, ?_⟩
  rcases hr : run (.alone label) (.start [] 0 ()) with ⟨x, q⟩
  obtain rfl : x = .ok shown := by rw [← hshown, hr]
  -- the value of the override is known from the request only
  have hagain := run_overriding_own_value hc hsteady hwelcomes trivial hnine rfl hr
  exact hagain

end Evaluation

end DesignGraph
