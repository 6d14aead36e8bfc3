import DesignGraph.Proofs.Evaluation.Course
/-!
# One dialogue a node

The exchanges of an evaluation interleave those of many programs. Seen from one node they are a
single dialogue at most: its program runs once, from its first request to its result, and the
value that is remembered of its trigger is touched by that run only. Neither a cycle through the
node nor any number of further requests for it adds to the dialogue.

## Main definitions

* `DesignGraph.Evaluation.own` — the exchanges of a node.
* `DesignGraph.Evaluation.Turns` — what an exchange does to the value remembered of a trigger.
* `DesignGraph.Evaluation.Dialogue` — a complete run of a program, seen from its node.
* `DesignGraph.Evaluation.Untouched`, `DesignGraph.Evaluation.Finished` — before and after it.

## Main results

* `DesignGraph.Evaluation.Runs.frame` — a node that cannot be entered is left alone.
* `DesignGraph.Evaluation.Runs.dialogue` — what is left of a program becomes a dialogue.
* `DesignGraph.Evaluation.Runs.finishes` — a node that was asked for has finished.
* `DesignGraph.Evaluation.run_finishes` — every action has finished after a whole evaluation.
-/

set_option relaxedAutoImplicit false
set_option autoImplicit false

namespace DesignGraph

namespace Evaluation

variable {σ : Type}

/-- The exchanges of a node among all exchanges. -/
def own (id : String) (exchanges : List Exchange) : List Exchange :=
  exchanges.filter (·.node == id)

/-- What a request with its answer does to the value that is remembered of the node's trigger: a
look at the trigger compares the new value with it and takes its place. -/
def Turns : (request : Request) → request.Answer → Option Value → Option Value → Prop
  | .edge v, rises, last, new => rises = Trigger.rises last v ∧ new = some v
  | _, _, last, new => new = last

/-- A complete run of a program of the node `id`: its exchanges in order, the value remembered of
its trigger before and after, and its result. -/
inductive Dialogue {α : Type} (id : String) :
    Program α → Option Value → List Exchange → Option Value → α → Prop
  | done {result last} : Dialogue id (.done result) last [] last result
  | ask {request next a last new final exchanges result} (ht : Turns request a last new)
    (h : Dialogue id (next a) new exchanges final result) :
    Dialogue id (.ask request next) last (⟨id, request, a⟩ :: exchanges) final result

/-! ## Dialogues of composed programs -/

section Composed

variable {α β : Type} {id : String} {last final : Option Value} {exchanges : List Exchange}

@[simp] lemma dialogue_pure {a b : α} :
    Dialogue id (pure a : Program α) last exchanges final b ↔
      exchanges = [] ∧ final = last ∧ b = a := by
  constructor
  · rintro ⟨⟩
    exact ⟨rfl, rfl, rfl⟩
  · rintro ⟨rfl, rfl, rfl⟩
    exact .done

@[simp] lemma dialogue_ofExcept {e : Except Fault α} {b : α} :
    Dialogue id (.ofExcept e) last exchanges final b ↔
      exchanges = [] ∧ final = last ∧ e = .ok b := by
  constructor
  · rcases e with _ | a <;> rintro ⟨⟩
    exact ⟨rfl, rfl, rfl⟩
  · rintro ⟨rfl, rfl, rfl⟩
    exact .done

@[simp] lemma dialogue_request {request : Request} {a : request.Answer} :
    Dialogue id (.request request) last exchanges final a ↔
      exchanges = [⟨id, request, a⟩] ∧ Turns request a last final := by
  constructor
  · rintro (_ | ⟨ht, ⟨⟩⟩)
    exact ⟨rfl, ht⟩
  · rintro ⟨rfl, ht⟩
    exact .ask ht .done

/-- A program goes on where its first part has ended. -/
@[simp] lemma dialogue_bind {program : Program α} {f : α → Program β} {b : β} :
    Dialogue id (program >>= f) last exchanges final b ↔
      ∃ first middle a second, Dialogue id program last first middle a ∧
        Dialogue id (f a) middle second final b ∧ exchanges = first ++ second := by
  change Dialogue id (program.bind f) last exchanges final b ↔ _
  induction program generalizing last exchanges with
  | done a =>
    constructor
    · intro h
      exact ⟨[], last, a, exchanges, .done, h, rfl⟩
    · rintro ⟨_, _, _, second, ⟨⟩, h, rfl⟩
      exact h
  | fail fault =>
    constructor
    · rintro ⟨⟩
    · rintro ⟨_, _, _, _, ⟨⟩, _⟩
  | ask request next ih =>
    constructor
    · rintro (_ | ⟨ht, h⟩)
      obtain ⟨first, middle, a, second, hfirst, hsecond, rfl⟩ := (ih _).1 h
      exact ⟨_, middle, a, second, .ask ht hfirst, hsecond, rfl⟩
    · rintro ⟨_, middle, a, second, _ | ⟨ht, hfirst⟩, hsecond, rfl⟩
      exact .ask ht ((ih _).2 ⟨_, middle, a, second, hfirst, hsecond, rfl⟩)

end Composed

/-! ## Exchanges of a node -/

/-- What another node exchanges is not among the exchanges of a node. -/
lemma own_record_of_ne {node : Node} {id : String} (h : node.id ≠ id) (request : Request)
    (a : request.Answer) (p : Progress σ) :
    own id (record ⟨node.id, request, a⟩ p).exchanges = own id p.exchanges := by
  simp [own, record, h]

/-- What a node exchanges comes after its earlier exchanges. -/
lemma own_record_self (id : String) (request : Request) (a : request.Answer) (p : Progress σ) :
    own id (record ⟨id, request, a⟩ p).exchanges = own id p.exchanges ++ [⟨id, request, a⟩] := by
  simp [own, record]

@[simp] lemma triggers_record (exchange : Exchange) (p : Progress σ) :
    (record exchange p).triggers = p.triggers :=
  rfl

/-- A local request leaves triggers alone, unless it is a look of the node itself. -/
lemma meet_spares {setting : Setting σ} {node : Node} {request : Request}
    (hl : IsLocal setting.graph node request) {p q : Progress σ} {x : Except Fault request.Answer}
    (hm : ∀ read, meet setting node read request p = (x, q)) {id : String}
    (hid : ∀ v, request = .edge v → node.id ≠ id) :
    Fields.get? q.triggers id = Fields.get? p.triggers id := by
  obtain rfl := eq_effect_of_meet hl hm
  cases request with
  | edge v => rw [effect, Fields.get?_put, if_neg (hid v rfl)]
  | _ => rfl

/-- A local request takes its turn at the trigger of its node. -/
lemma meet_turns {setting : Setting σ} {node : Node} {request : Request} {a : request.Answer}
    {p q : Progress σ} (hl : IsLocal setting.graph node request)
    (hm : ∀ read, meet setting node read request p = (.ok a, q)) :
    Turns request a (Fields.get? p.triggers node.id) (Fields.get? q.triggers node.id) := by
  obtain rfl := eq_effect_of_meet hl hm
  cases request with
  | edge v =>
    have hrises : Trigger.rises (Fields.get? p.triggers node.id) v = a :=
      Except.ok.inj (congrArg Prod.fst (hm fun id p => (.ok ⟨.null, id⟩, p)))
    refine ⟨hrises.symm, ?_⟩
    rw [effect, Fields.get?_put, if_pos rfl]
  | _ => rfl

/-! ## Nodes that cannot be entered -/

/-- Remembered signals stay. -/
lemma Runs.memo_subset {setting : Setting σ} {path : List String} {job : Job} {p : Progress σ}
    {r : Except Fault Signal × Progress σ} (h : Runs setting path job p r) :
    p.memo ⊆ r.2.memo := by
  induction h with
  | overridden | recalled | cut | absent | done | fail => exact List.Subset.refl _
  | entered _ _ _ _ _ ih => exact fun _ he => List.mem_append_left _ (ih he)
  | failed _ _ _ _ _ ih => exact ih
  | wired _ _ _ ihv ih => exact fun _ he => ih (ihv he)
  | broken _ _ ihv => exact ihv
  | met hl hm _ ih =>
    rw [record, (meet_keeps hl hm).1] at ih
    exact ih
  | refused hl hm => exact (meet_keeps hl hm).1 ▸ List.Subset.refl _

/-- A node whose program cannot be started: it is overridden, its signal is remembered, or the
program is running. -/
def Closed (setting : Setting σ) (id : String) (path : List String) (p : Progress σ) : Prop :=
  (Fields.get? setting.overrides id).isSome ∨ (∃ s, (id, s) ∈ p.memo) ∨ id ∈ path

/-- A job that is not the program of the node `id`. -/
def Job.Avoids (id : String) : Job → Prop
  | .value _ => True
  | .rest node _ => node.id ≠ id

/-- Nodes that are entered differ from those that cannot be, and these stay so. -/
lemma Closed.enter {setting : Setting σ} {id other : String} {path : List String} {p : Progress σ}
    (h : Closed setting id path p) (ho : Fields.get? setting.overrides other = none)
    (hm : p.memo.lookup other = none) (hp : other ∉ path) (answer : Answer) :
    other ≠ id ∧ Closed setting id (other :: path) (note other path answer p) := by
  refine ⟨?_, ?_⟩
  · rintro rfl
    rcases h with h | ⟨s, hs⟩ | h
    · simp [ho] at h
    · exact not_mem_of_lookup hm s hs
    · exact hp h
  · rcases h with h | h | h
    · exact .inl h
    · exact .inr (.inl h)
    · exact .inr (.inr (List.mem_cons_of_mem other h))

/-- **A node that cannot be entered is left alone**: it exchanges nothing, and the value remembered
of its trigger stays. -/
theorem Runs.frame {setting : Setting σ} {path : List String} {job : Job} {p : Progress σ}
    {r : Except Fault Signal × Progress σ} (h : Runs setting path job p r) {id : String}
    (hc : Closed setting id path p) (hj : job.Avoids id) :
    own id r.2.exchanges = own id p.exchanges ∧
      Fields.get? r.2.triggers id = Fields.get? p.triggers id := by
  have hlater {path : List String} {p q : Progress σ} (hc : Closed setting id path p)
      (hpq : p.memo ⊆ q.memo) : Closed setting id path q := by
    rcases hc with h | ⟨s, hs⟩ | h
    · exact .inl h
    · exact .inr (.inl ⟨s, hpq hs⟩)
    · exact .inr (.inr h)
  induction h with
  | overridden | recalled | cut | absent | done | fail => exact ⟨rfl, rfl⟩
  | entered ho hm hp hn _ ih =>
    obtain ⟨hne, hc⟩ := hc.enter ho hm hp .entered
    exact ih hc (by rwa [Job.Avoids, Graph.id_of_node? hn])
  | failed ho hm hp hn _ ih =>
    obtain ⟨hne, hc⟩ := hc.enter ho hm hp .entered
    exact ih hc (by rwa [Job.Avoids, Graph.id_of_node? hn])
  | @wired _ node socket next p source s q r hs hv _ ihv ih =>
    obtain ⟨hown, htrigger⟩ := ihv hc trivial
    obtain ⟨hown', htrigger'⟩ := ih (hlater hc hv.memo_subset) hj
    rw [own_record_of_ne hj] at hown'
    exact ⟨hown'.trans hown, htrigger'.trans htrigger⟩
  | broken _ _ ihv => exact ihv hc trivial
  | @met _ node request next p a q r hl hm _ ih =>
    obtain ⟨hmemo, -, hexchanges⟩ := meet_keeps hl hm
    obtain ⟨hown, htrigger⟩ := ih (hlater hc (hmemo ▸ List.Subset.refl _)) hj
    rw [own_record_of_ne hj, own, hexchanges, ← own] at hown
    exact ⟨hown, htrigger.trans (meet_spares hl hm fun _ _ => hj)⟩
  | refused hl hm => exact ⟨by rw [(meet_keeps hl hm).2.2], meet_spares hl hm fun _ _ => hj⟩

/-! ## A run of a program -/

/-- **What is left of a program becomes a dialogue** if it comes to a result, and the result of the
dialogue is what leaves the node.

**Proof sketch.** Induction on the rules. While the program waits for another node, its own node is
running and left alone, so all its exchanges are those of its own requests. -/
theorem Runs.dialogue {setting : Setting σ} {path : List String} {job : Job} {p : Progress σ}
    {r : Except Fault Signal × Progress σ} (h : Runs setting path job p r) {s : Signal}
    (hr : r.1 = .ok s) : ∀ node program, job = .rest node program → node.id ∈ path →
      ∃ exchanges o, own node.id r.2.exchanges = own node.id p.exchanges ++ exchanges ∧
        o.signal node.id = s ∧
        Dialogue node.id program (Fields.get? p.triggers node.id) exchanges
          (Fields.get? r.2.triggers node.id) o := by
  induction h with
  | overridden | recalled | cut | absent | entered | failed => exact nofun
  | @done path node p o =>
    rintro _ _ ⟨⟩ -
    exact ⟨[], o, (List.append_nil _).symm, Except.ok.inj hr, .done⟩
  | fail | broken | refused => cases hr
  | @wired path node socket next p source s q r hs hv _ _ ih =>
    rintro _ _ ⟨⟩ hpath
    obtain ⟨hown, htrigger⟩ := hv.frame (.inr (.inr hpath)) trivial
    obtain ⟨exchanges, o, happend, ho, hd⟩ := ih hr _ _ rfl hpath
    rw [own_record_self, hown, List.append_assoc] at happend
    rw [triggers_record, htrigger] at hd
    exact ⟨_, o, happend, ho, .ask rfl hd⟩
  | @met path node request next p a q r hl hm _ ih =>
    rintro _ _ ⟨⟩ hpath
    obtain ⟨exchanges, o, happend, ho, hd⟩ := ih hr _ _ rfl hpath
    rw [own_record_self, (meet_keeps hl hm).2.2, List.append_assoc] at happend
    exact ⟨_, o, happend, ho, .ask (meet_turns hl hm) hd⟩

/-! ## Before and after -/

/-- An evaluation that has not started the program of the node `id`; `last` is the value remembered
of its trigger. -/
structure Untouched (id : String) (last : Option Value) (p : Progress σ) : Prop where
  fresh : ∀ s, (id, s) ∉ p.memo
  silent : own id p.exchanges = []
  trigger : Fields.get? p.triggers id = last

/-- Nothing has happened at the start. -/
lemma untouched_start (id : String) (triggers : Fields) (drawn : Nat) (outlet : σ) :
    Untouched id (Fields.get? triggers id) (.start triggers drawn outlet) :=
  ⟨fun _ => List.not_mem_nil, rfl, rfl⟩

/-- An evaluation that has run the program of a node, once; `last` is the value that was remembered
of its trigger before. -/
structure Finished (node : Node) (last : Option Value) (p : Progress σ) : Prop where
  remembered : ∃ s, (node.id, s) ∈ p.memo
  dialogue : ∃ o, Dialogue node.id node.program last (own node.id p.exchanges)
    (Fields.get? p.triggers node.id) o

section Finishing

variable {setting : Setting σ} {node : Node} {last : Option Value} {p : Progress σ}

/-- What has finished stays so. -/
lemma Finished.later {path : List String} {job : Job} {r : Except Fault Signal × Progress σ}
    (hp : Finished node last p) (h : Runs setting path job p r) (hj : job.Avoids node.id) :
    Finished node last r.2 := by
  obtain ⟨s, hs⟩ := hp.remembered
  obtain ⟨hown, htrigger⟩ := h.frame (.inr (.inl ⟨s, hs⟩)) hj
  refine ⟨⟨s, h.memo_subset hs⟩, ?_⟩
  rw [hown, htrigger]
  exact hp.dialogue

/-- The program of an untouched node that comes to a result has finished. -/
lemma Untouched.finished {path : List String} {s : Signal} {q : Progress σ}
    (hp : Untouched node.id last p)
    (h : Runs setting (node.id :: path) (.rest node node.program) (note node.id path .entered p)
      (.ok s, q)) : Finished node last { q with memo := q.memo ++ [(node.id, s)] } := by
  obtain ⟨exchanges, o, happend, -, hd⟩ := h.dialogue rfl _ _ rfl List.mem_cons_self
  have hsilent : own node.id (note node.id path .entered p).exchanges = [] := hp.silent
  have htrigger : Fields.get? (note node.id path .entered p).triggers node.id = last := hp.trigger
  rw [hsilent, List.nil_append] at happend
  rw [htrigger, ← happend] at hd
  exact ⟨⟨s, by simp⟩, o, hd⟩

/-- Remembering another node changes nothing for a node. -/
lemma Untouched.remember (hp : Untouched node.id last p) {id : String} (hid : id ≠ node.id)
    (s : Signal) : Untouched node.id last { p with memo := p.memo ++ [(id, s)] } := by
  refine ⟨fun s' hs' => ?_, hp.silent, hp.trigger⟩
  rcases List.mem_append.1 hs' with hs' | hs'
  · exact hp.fresh s' hs'
  · exact hid (congrArg Prod.fst (List.mem_singleton.1 hs')).symm

/-- Remembering another node changes nothing for a node that has finished. -/
lemma Finished.remember (hp : Finished node last p) (id : String) (s : Signal) :
    Finished node last { p with memo := p.memo ++ [(id, s)] } := by
  obtain ⟨s', hs'⟩ := hp.remembered
  exact ⟨⟨s', List.mem_append_left _ hs'⟩, hp.dialogue⟩

/-- A node is untouched or finished as it was, if it is remembered as before, has had no further
exchange and its trigger is as it was. -/
lemma untouched_or_finished_congr {q : Progress σ}
    (hp : Untouched node.id last p ∨ Finished node last p) (hmemo : q.memo = p.memo)
    (hown : own node.id q.exchanges = own node.id p.exchanges)
    (htrigger : Fields.get? q.triggers node.id = Fields.get? p.triggers node.id) :
    Untouched node.id last q ∨ Finished node last q := by
  rcases hp with ⟨hfresh, hsilent, hlast⟩ | ⟨hremembered, hdialogue⟩
  · exact .inl ⟨hmemo ▸ hfresh, hown.trans hsilent, htrigger.trans hlast⟩
  · refine .inr ⟨hmemo ▸ hremembered, ?_⟩
    rw [hown, htrigger]
    exact hdialogue

/-- What another node exchanges leaves a node untouched or finished as it was. -/
lemma untouched_or_finished_record {other : Node}
    (hp : Untouched node.id last p ∨ Finished node last p) (hother : other.id ≠ node.id)
    (request : Request) (a : request.Answer) :
    Untouched node.id last (record ⟨other.id, request, a⟩ p) ∨
      Finished node last (record ⟨other.id, request, a⟩ p) :=
  untouched_or_finished_congr hp rfl (own_record_of_ne hother request a p) rfl

/-- **A node that was asked for has finished**, and until then it is untouched, as long as all
goes well.

**Proof sketch.** Induction on the rules, off the path of the node. The rule `entered` for the node
itself finishes it; afterwards it is remembered and left alone. -/
theorem Runs.finishes {path : List String} {job : Job} {r : Except Fault Signal × Progress σ}
    (h : Runs setting path job p r) {s : Signal} (hr : r.1 = .ok s)
    (hn : setting.graph.node? node.id = some node) (hpath : node.id ∉ path)
    (hj : job.Avoids node.id) (hp : Untouched node.id last p ∨ Finished node last p) :
    (Untouched node.id last r.2 ∨ Finished node last r.2) ∧
      (job = .value node.id → Fields.get? setting.overrides node.id = none →
        Finished node last r.2) := by
  induction h generalizing s with
  | @overridden path id p v hv =>
    refine ⟨untouched_or_finished_congr hp rfl rfl rfl, ?_⟩
    rintro ⟨⟩ ho
    cases hv.symm.trans ho
  | @recalled path id p s' _ hs =>
    refine ⟨untouched_or_finished_congr hp rfl rfl rfl, ?_⟩
    rintro ⟨⟩ -
    have hmem := mem_of_lookup hs
    rcases hp with hp | hp
    · exact absurd hmem (hp.fresh s')
    · exact ⟨hp.remembered, hp.dialogue⟩
  | @cut path id p _ _ hid =>
    refine ⟨untouched_or_finished_congr hp rfl rfl rfl, ?_⟩
    rintro ⟨⟩ -
    exact absurd hid hpath
  | @absent path id p _ _ _ hnone =>
    refine ⟨untouched_or_finished_congr hp rfl rfl rfl, ?_⟩
    rintro ⟨⟩ -
    cases hnone.symm.trans hn
  | @entered path id p node' s' q ho hm _ hn' h ih =>
    by_cases hid : id = node.id
    · subst hid
      cases hn'.symm.trans hn
      rcases hp with hp | hp
      · exact ⟨.inr (hp.finished h), fun _ _ => hp.finished h⟩
      · obtain ⟨s'', hs''⟩ := hp.remembered
        exact absurd hs'' (not_mem_of_lookup hm s'')
    · have hpath' : node.id ∉ id :: path := by
        rintro (_ | ⟨_, hmem⟩)
        · exact hid rfl
        · exact hpath hmem
      obtain ⟨hq, -⟩ := ih rfl hpath' (by rwa [Job.Avoids, Graph.id_of_node? hn'])
        (untouched_or_finished_congr hp rfl rfl rfl)
      refine ⟨?_, ?_⟩
      · rcases hq with hq | hq
        · exact .inl (hq.remember hid s')
        · exact .inr (hq.remember id s')
      · rintro ⟨⟩ -
        exact absurd rfl hid
  | failed | fail | broken | refused => cases hr
  | done => exact ⟨hp, nofun⟩
  | wired hs hv _ ihv ih =>
    obtain ⟨hq, -⟩ := ihv rfl hpath trivial hp
    exact ⟨(ih hr hpath hj (untouched_or_finished_record hq hj _ _)).1, nofun⟩
  | met hl hm _ ih =>
    obtain ⟨hmemo, -, hexchanges⟩ := meet_keeps hl hm
    have hq := untouched_or_finished_congr hp hmemo (congrArg (own node.id) hexchanges)
      (meet_spares hl hm fun _ _ => hj)
    exact ⟨(ih hr hpath hj (untouched_or_finished_record hq hj _ _)).1, nofun⟩

/-- A row of requests leaves a node finished that was. -/
lemma Finished.asked (hp : Finished node last p) {ids : List String} {q : Progress σ}
    (h : Asked setting ids p q) : Finished node last q := by
  induction h with
  | nil => exact hp
  | @cons id ids p s q r hs h ih =>
    exact ih (hp.later (runs_of_signal hs) trivial)

/-- Nodes that were asked for with success have finished, unless they are overridden. -/
lemma Asked.finishes {ids : List String} {q : Progress σ} (h : Asked setting ids p q)
    (hn : setting.graph.node? node.id = some node)
    (ho : Fields.get? setting.overrides node.id = none)
    (hp : Untouched node.id last p ∨ Finished node last p) :
    (Untouched node.id last q ∨ Finished node last q) ∧ (node.id ∈ ids → Finished node last q) := by
  induction h with
  | nil => exact ⟨hp, nofun⟩
  | @cons id ids p s q r hs h ih =>
    obtain ⟨hq, hself⟩ := (runs_of_signal hs).finishes rfl hn List.not_mem_nil trivial hp
    refine ⟨(ih hq).1, fun hmem => ?_⟩
    rcases List.mem_cons.1 hmem with rfl | hmem
    · exact (hself rfl ho).asked h
    · exact (ih hq).2 hmem

/-- **Every action has finished after a whole evaluation**, unless it is overridden: its program has
run exactly once, whichever way and however often it was asked for. -/
theorem run_finishes {a : Appearance} {triggers : Fields} {drawn : Nat} {outlet : σ}
    {q : Progress σ} (h : run setting (.start triggers drawn outlet) = (.ok a, q))
    (hn : setting.graph.node? node.id = some node) (hact : node.isAction = true)
    (ho : Fields.get? setting.overrides node.id = none) :
    Finished node (Fields.get? triggers node.id) q := by
  obtain ⟨ids, hids, -⟩ := run_asked h
  have hmem : node.id ∈ setting.graph.actions.map (·.id) ++ ids := by
    refine List.mem_append_left _ (List.mem_map_of_mem (List.mem_filter.2 ⟨?_, hact⟩))
    exact List.mem_of_find?_eq_some hn
  exact (hids.finishes hn ho (.inl (untouched_start _ _ _ _))).2 hmem

end Finishing

end Evaluation

end DesignGraph
