import DesignGraph.Proofs.Evaluation.Cut
/-!
# What an evaluation computes

The meaning of a node does not mention memory or running programs: it is the override, null where
there is no node, and otherwise the result of the node's program when each read gives the meaning of
the node that feeds the socket. A graph without reported cycles is evaluated to that meaning,
whatever was asked for before: a program is never asked for while it runs, so a remembered signal
is always the meaning of its node. Lists and objects are compared by their makers, and signals carry
these along, so comparisons of lists and objects have a meaning as well.

## Main definitions

* `DesignGraph.Evaluation.Plain` — the answers of requests that look at no other node.
* `DesignGraph.Evaluation.Denotes` — the meaning of a node.
* `DesignGraph.Evaluation.Sound` — what was remembered and what was read are meanings.

## Main results

* `DesignGraph.Evaluation.Runs.denotes` — evaluations follow the meaning and keep it.
* `DesignGraph.Evaluation.Denotes.unique` — a node has at most one meaning, unless samples are
  drawn.
* `DesignGraph.Evaluation.signal_eq_meaning` — what is answered is the meaning.
-/

set_option relaxedAutoImplicit false
set_option autoImplicit false

namespace DesignGraph

namespace Evaluation

variable {σ : Type}

/-- An answer to a request that looks at no other node: null on an unwired socket, and what the
graph and the context say. Samples and the looks of actions at their triggers are left open. -/
def Plain (graph : Graph) (context : Context) (node : Node) :
    (request : Request) → request.Answer → Prop
  | .read socket, s => graph.source? node.id socket = none ∧ s = ⟨.null, node.id⟩
  | .isWired socket, b => b = graph.isWired node.id socket
  | .hovered, b => b = context.hovered
  | .clicked, b => b = context.clicked
  | .time, t => t = context.time
  | .sample, _ | .edge _, _ | .fire _, _ => True

/-- The meaning of a job: plain recursion through the graph, with nothing remembered and nothing
cut. Only graphs in which every node has a meaning in finitely many steps are computed by it. -/
inductive Denotes (graph : Graph) (overrides : Fields) (context : Context) : Job → Signal → Prop
  | overridden {id v} (hv : Fields.get? overrides id = some v) :
    Denotes graph overrides context (.value id) ⟨v, id⟩
  | absent {id} (ho : Fields.get? overrides id = none) (hn : graph.node? id = none) :
    Denotes graph overrides context (.value id) ⟨.null, id⟩
  | computed {id node s} (ho : Fields.get? overrides id = none) (hn : graph.node? id = some node)
    (h : Denotes graph overrides context (.rest node node.program) s) :
    Denotes graph overrides context (.value id) s
  | done {node o} : Denotes graph overrides context (.rest node (.done o)) (o.signal node.id)
  | wired {node socket next source s t} (hs : graph.source? node.id socket = some source)
    (hv : Denotes graph overrides context (.value source) s)
    (h : Denotes graph overrides context (.rest node (next s)) t) :
    Denotes graph overrides context (.rest node (.ask (.read socket) next)) t
  | plain {node request next a t} (hp : Plain graph context node request a)
    (h : Denotes graph overrides context (.rest node (next a)) t) :
    Denotes graph overrides context (.rest node (.ask request next)) t

/-! ## Evaluations follow the meaning -/

/-- What was remembered and what was read so far are meanings. -/
structure Sound (setting : Setting σ) (p : Progress σ) : Prop where
  memo : ∀ entry ∈ p.memo,
    Denotes setting.graph setting.overrides setting.context (.value entry.1) entry.2
  reads : ∀ node socket s source, ⟨node, .read socket, s⟩ ∈ p.exchanges →
    setting.graph.source? node socket = some source →
    Denotes setting.graph setting.overrides setting.context (.value source) s

/-- Local requests are answered plainly. -/
lemma plain_of_meet {setting : Setting σ} {node : Node} {request : Request} {a : request.Answer}
    {p q : Progress σ} (hl : IsLocal setting.graph node request)
    (hm : ∀ read, meet setting node read request p = (.ok a, q)) :
    Plain setting.graph setting.context node request a := by
  have h := hm fun id p => (.ok ⟨.null, id⟩, p)
  cases request with
  | read socket =>
    simp only [meet, hl socket rfl, Prod.mk.injEq, Except.ok.injEq] at h
    exact ⟨hl socket rfl, h.1.symm⟩
  | sample | edge | fire => trivial
  | _ =>
    simp only [meet, Prod.mk.injEq, Except.ok.injEq] at h
    exact h.1.symm

section Sound

variable {setting : Setting σ} {p q : Progress σ}

/-- Notes of visits say nothing about values. -/
lemma Sound.note (h : Sound setting p) (id : String) (path : List String) (answer : Answer) :
    Sound setting (Evaluation.note id path answer p) :=
  ⟨h.memo, h.reads⟩

/-- The meaning of a node may be remembered. -/
lemma Sound.remember (h : Sound setting p) {id : String} {s : Signal}
    (hs : Denotes setting.graph setting.overrides setting.context (.value id) s) :
    Sound setting { p with memo := p.memo ++ [(id, s)] } := by
  refine ⟨fun entry hentry => ?_, h.reads⟩
  rcases List.mem_append.1 hentry with hentry | hentry
  · exact h.memo entry hentry
  · rw [List.mem_singleton.1 hentry]
    exact hs

/-- The meaning of a node may be read. -/
lemma Sound.read (h : Sound setting p) {node socket source : String} {s : Signal}
    (hsource : setting.graph.source? node socket = some source)
    (hs : Denotes setting.graph setting.overrides setting.context (.value source) s) :
    Sound setting (record ⟨node, .read socket, s⟩ p) := by
  refine ⟨h.memo, fun node' socket' s' source' hmem hsource' => ?_⟩
  rcases List.mem_append.1 hmem with hmem | hmem
  · exact h.reads node' socket' s' source' hmem hsource'
  · cases List.mem_singleton.1 hmem
    rw [hsource, Option.some.injEq] at hsource'
    exact hsource' ▸ hs

/-- A local request may be answered. -/
lemma Sound.meet (h : Sound setting p) {node : Node} {request : Request} {a : request.Answer}
    (hl : IsLocal setting.graph node request)
    (hm : ∀ read, Evaluation.meet setting node read request p = (.ok a, q)) :
    Sound setting (record ⟨node.id, request, a⟩ q) := by
  obtain ⟨hmemo, -, hexchanges⟩ := meet_keeps hl hm
  refine ⟨?_, fun node' socket s source hmem hsource => ?_⟩
  · rw [record, hmemo]
    exact h.memo
  rw [record, hexchanges] at hmem
  rcases List.mem_append.1 hmem with hmem | hmem
  · exact h.reads node' socket s source hmem hsource
  · -- a local request reads no wired socket
    cases List.mem_singleton.1 hmem
    rw [hl socket rfl] at hsource
    cases hsource

end Sound

/-- **Evaluations follow the meaning**: where no cycle is reported, what is remembered and read
stays meaningful, and a job that succeeds gives its meaning.

**Proof sketch.** Induction on the rules. The rule `cut` would close a cycle; a recalled signal is a
meaning by the invariant; every other rule is a rule of `Denotes`. -/
theorem Runs.denotes {setting : Setting σ} {path : List String} {job : Job} {p : Progress σ}
    {r : Except Fault Signal × Progress σ} (h : Runs setting path job p r)
    (hc : ∀ issue ∈ setting.graph.issues, issue.code ≠ "cycle")
    (hw : Waiting setting.graph path job) (hp : Sound setting p) :
    Sound setting r.2 ∧
      ∀ s, r.1 = .ok s → Denotes setting.graph setting.overrides setting.context job s := by
  induction h with
  | overridden hv =>
    refine ⟨hp.note _ _ _, fun s hs => ?_⟩
    cases hs
    exact .overridden hv
  | recalled _ hmemo =>
    refine ⟨hp.note _ _ _, fun s hs => ?_⟩
    cases hs
    exact hp.memo _ (mem_of_lookup hmemo)
  | cut _ _ hid => exact absurd hid (hw.not_mem hc)
  | absent ho _ _ hn =>
    refine ⟨hp.note _ _ _, fun s hs => ?_⟩
    cases hs
    exact .absent ho hn
  | entered ho _ _ hn _ ih =>
    obtain ⟨hq, hden⟩ := ih (hw.enter hn) (hp.note _ _ _)
    have hvalue := Denotes.computed ho hn (hden _ rfl)
    refine ⟨hq.remember hvalue, fun s hs => ?_⟩
    cases hs
    exact hvalue
  | failed _ _ _ hn _ ih => exact ⟨(ih (hw.enter hn) (hp.note _ _ _)).1, nofun⟩
  | done =>
    refine ⟨hp, fun s hs => ?_⟩
    cases hs
    exact .done
  | fail => exact ⟨hp, nofun⟩
  | wired hs _ _ ihv ih =>
    obtain ⟨hq, hsource⟩ := ihv (hw.read hs) hp
    obtain ⟨hr, hden⟩ := ih hw.go_on (hq.read hs (hsource _ rfl))
    exact ⟨hr, fun t ht => .wired hs (hsource _ rfl) (hden t ht)⟩
  | broken hs _ ihv => exact ⟨(ihv (hw.read hs) hp).1, nofun⟩
  | met hl hm _ ih =>
    obtain ⟨hr, hden⟩ := ih hw.go_on (hp.meet hl hm)
    exact ⟨hr, fun t ht => .plain (plain_of_meet hl hm) (hden t ht)⟩
  | refused hl hm =>
    obtain ⟨hmemo, -, hexchanges⟩ := meet_keeps hl hm
    exact ⟨⟨hmemo ▸ hp.memo, hexchanges ▸ hp.reads⟩, nofun⟩

/-- Where no cycle is reported, all that was remembered and read is meaningful. -/
lemma Reached.sound {setting : Setting σ} {p : Progress σ} (h : Reached setting p)
    (hc : ∀ issue ∈ setting.graph.issues, issue.code ≠ "cycle") : Sound setting p := by
  refine h.induct (P := fun p => Sound setting p) ?_ ?_
  · exact fun _ _ _ => ⟨nofun, nofun⟩
  · exact fun id p r hr hp => (hr.denotes hc (.outside id) hp).1

/-! ## One meaning -/

/-- Only the requests of actions and samples have more than one plain answer. -/
lemma Plain.unique {graph : Graph} {context : Context} {node : Node} {request : Request}
    {a b : request.Answer} (ha : Plain graph context node request a)
    (hb : Plain graph context node request b) (hs : request ≠ .sample)
    (he : ∀ v, request ≠ .edge v) (hf : ∀ action, request ≠ .fire action) : a = b := by
  cases request with
  | read socket => exact ha.2.trans hb.2.symm
  | sample => exact absurd rfl hs
  | edge v => exact absurd rfl (he v)
  | fire action => exact absurd rfl (hf action)
  | _ => exact Eq.trans ha (Eq.symm hb)

section Unique

variable {graph : Graph} {overrides : Fields} {context : Context} {node : Node}

/-- A node that does not act and draws no samples makes only requests with one plain answer. -/
lemma Fits.plain_unique {request : Request} {next : request.Answer → Program Outcome}
    (h : Fits graph (.rest node (.ask request next)))
    (hr : ∀ node ∈ graph.nodes, node.kind? ≠ some .random) (hact : node.isAction = false)
    {a b : request.Answer} (ha : Plain graph context node request a)
    (hb : Plain graph context node request b) : a = b := by
  obtain ⟨hnode, ⟨kind, hkind, hask⟩, -⟩ := h
  have hmem : node ∈ graph.nodes := List.mem_of_find?_eq_some hnode
  have hquiet : kind.isAction ≠ true := by
    simpa [Node.isAction, hkind] using hact
  refine ha.unique hb ?_ ?_ ?_
  · rintro rfl
    exact hr node hmem (hkind.trans (congrArg some hask))
  · rintro v rfl
    exact hquiet hask
  · rintro action rfl
    exact hquiet hask

/-- What acts means null. -/
lemma Denotes.of_action {job : Job} {s : Signal} (h : Denotes graph overrides context job s)
    (hf : Fits graph job) : ∀ node program, job = .rest node program → node.isAction = true →
      s = ⟨.null, node.id⟩ := by
  induction h with
  | overridden | absent | computed => exact nofun
  | @done node o =>
    rintro _ _ ⟨⟩ hact
    rw [hf.2 hact, Outcome.signal]
  | wired _ _ _ _ ih =>
    rintro _ _ ⟨⟩ hact
    exact ih (hf.next _) _ _ rfl hact
  | plain _ _ ih =>
    rintro _ _ ⟨⟩ hact
    exact ih (hf.next _) _ _ rfl hact

/-- **A job has at most one meaning**, unless samples are drawn.

**Proof sketch.** Induction on one meaning and inversion of the other. The looks of an action at
its trigger have no fixed answers, but whatever they are, the action comes to null. -/
theorem Denotes.unique {job : Job} {s t : Signal} (h : Denotes graph overrides context job s)
    (hr : ∀ node ∈ graph.nodes, node.kind? ≠ some .random) (hf : Fits graph job)
    (ht : Denotes graph overrides context job t) : t = s := by
  induction h generalizing t with
  | overridden hv =>
    cases ht with
    | overridden hv' => rw [Option.some.inj (hv.symm.trans hv')]
    | absent ho | computed ho => cases hv.symm.trans ho
  | absent ho hn =>
    cases ht with
    | overridden hv => cases ho.symm.trans hv
    | absent => rfl
    | computed _ hn' => cases hn.symm.trans hn'
  | computed ho hn _ ih =>
    cases ht with
    | overridden hv => cases ho.symm.trans hv
    | absent _ hn' => cases hn.symm.trans hn'
    | computed _ hn' ht =>
      cases hn.symm.trans hn'
      exact ih (fits_program hn) ht
  | done =>
    cases ht with
    | done => rfl
  | wired hs _ _ ihv ih =>
    cases ht with
    | wired hs' hv ht =>
      cases hs.symm.trans hs'
      cases ihv trivial hv
      exact ih (hf.next _) ht
    | plain hp => cases hs.symm.trans hp.1
  | @plain node request next a s hp h ih =>
    cases hact : node.isAction with
    | true =>
      have hs := (Denotes.plain hp h).of_action hf node _ rfl hact
      exact (ht.of_action hf node _ rfl hact).trans hs.symm
    | false =>
      cases ht with
      | wired hs => cases hs.symm.trans hp.1
      | plain hp' ht =>
        cases hf.plain_unique hr hact hp hp'
        exact ih (hf.next _) ht

end Unique

/-- **What is answered is the meaning.** Where no cycle is reported and no sample is drawn, a
request from outside and a read of a wired socket are answered, if at all, with the only meaning of
the node that is asked for, whatever was asked for before. So a node is answered alike at any two
points, also of different evaluations that start with other triggers and samples. -/
theorem signal_eq_meaning {setting : Setting σ}
    (hc : ∀ issue ∈ setting.graph.issues, issue.code ≠ "cycle")
    (hr : ∀ node ∈ setting.graph.nodes, node.kind? ≠ some .random) {p : Progress σ}
    (h : Reached setting p) (id : String) :
    (∀ s, (signal setting id p).1 = .ok s → ∀ t,
      Denotes setting.graph setting.overrides setting.context (.value id) t ↔ t = s) ∧
    (∀ node socket source s, setting.graph.source? node socket = some source →
      ⟨node, .read socket, s⟩ ∈ p.exchanges → ∀ t,
        Denotes setting.graph setting.overrides setting.context (.value source) t ↔ t = s) ∧
    (∀ p', Reached setting p' → ∀ s s', (signal setting id p).1 = .ok s →
      (signal setting id p').1 = .ok s' → s' = s) := by
  have hsignal : ∀ {p}, Reached setting p → ∀ s, (signal setting id p).1 = .ok s →
      Denotes setting.graph setting.overrides setting.context (.value id) s := by
    intro p h s hs
    exact ((signal_runs setting id p).denotes hc (.outside id) (h.sound hc)).2 s hs
  have hone : ∀ {id s}, Denotes setting.graph setting.overrides setting.context (.value id) s →
      ∀ t, Denotes setting.graph setting.overrides setting.context (.value id) t ↔ t = s := by
    intro id s hden t
    refine ⟨fun ht => hden.unique hr trivial ht, ?_⟩
    rintro rfl
    exact hden
  refine ⟨fun s hs => hone (hsignal h s hs), ?_, fun p' h' s s' hs hs' => ?_⟩
  · intro node socket source s hsource hread
    exact hone ((h.sound hc).reads node socket s source hread hsource)
  · exact (hone (hsignal h s hs) s').1 (hsignal h' s' hs')

/-- A number, its square, and the square as a text twice over. -/
def square : Graph :=
  ⟨[⟨"n", "NUMBER", [("value", .int 3)]⟩, ⟨"m", "MULTIPLY", []⟩, ⟨"t", "CONCAT", []⟩],
    [⟨"n", "m", "in-a"⟩, ⟨"n", "m", "in-b"⟩, ⟨"m", "t", "in-a"⟩, ⟨"m", "t", "in-b"⟩], .null, .null⟩

/-- The square of three means nine, also after the text has been asked for, which reads it twice. -/
theorem square_eq_meaning :
    (∀ issue ∈ square.issues, issue.code ≠ "cycle") ∧
    (∀ node ∈ square.nodes, node.kind? ≠ some .random) ∧
    (signal (.alone square) "t" (.start [] 0 ())).2.trail.map (·.answer) =
      [.entered, .entered, .entered, .recalled, .recalled] ∧
    ∀ t, Denotes square [] .initial (.value "m") t ↔ t = ⟨.float 9, "m"⟩ := by
  have hc : ∀ issue ∈ square.issues, issue.code ≠ "cycle" := by decide
  have hr : ∀ node ∈ square.nodes, node.kind? ≠ some .random := by decide
  have hreached : Reached (.alone square) (signal (.alone square) "t" (.start [] 0 ())).2 :=
    .signal (.start [] 0 ()) "t"
  have hnine : (signal (.alone square) "m" (signal (.alone square) "t" (.start [] 0 ())).2).1 =
      .ok ⟨.float 9, "m"⟩ := by decide +kernel
  refine ⟨hc, hr, by decide +kernel, ?_⟩
  exact (signal_eq_meaning hc hr hreached "m").1 _ hnine

end Evaluation

end DesignGraph
