import DesignGraph.Proofs.Evaluation.Dialogue
import DesignGraph.Proofs.Evaluation.Machine
/-!
# Every node runs once

However a graph is wired, and however often its nodes are asked for, an evaluation dispatches the
program of an id only when it is neither running nor remembered, and remembers it when it ends. So
no program is completed twice, a request dispatches no id twice, and what is remembered stays. A
random node, which reads nothing, therefore draws one sample at most, and all its readers get it.

## Main definitions

* `DesignGraph.Evaluation.dispatched` — the ids whose programs have been dispatched.
* `DesignGraph.Evaluation.Adds` — what a job adds to the memory and to the dispatched ids.
* `DesignGraph.Evaluation.Rolled` — a random node has drawn no sample yet, or one that all its
  readers got.
* `DesignGraph.Evaluation.Orderly` — what a request from outside does, all together.

## Main results

* `DesignGraph.Evaluation.Runs.adds` — a job dispatches and remembers new ids only, each once.
* `DesignGraph.Evaluation.Runs.rolled` — random nodes draw once.
* `DesignGraph.Evaluation.signal_orderly` — every request from outside ends and is orderly.
-/

set_option relaxedAutoImplicit false
set_option autoImplicit false

namespace DesignGraph

namespace Evaluation

variable {σ : Type}

/-! ## Dispatched ids -/

/-- The ids whose programs have been dispatched, in order. -/
def dispatched (p : Progress σ) : List String :=
  (p.trail.filter (·.answer = .entered)).map (·.id)

lemma dispatched_congr {p q : Progress σ} (h : q.trail = p.trail) :
    dispatched q = dispatched p := by
  rw [dispatched, h, dispatched]

/-- What a job adds to the progress `p` on its way to `q`: signals that are remembered and ids that
are dispatched. Each of these ids is new and dispatched once, and only they are remembered. -/
structure Adds (graph : Graph) (path : List String) (p q : Progress σ)
    (memo : List (String × Signal)) (ids : List String) : Prop where
  memo_eq : q.memo = p.memo ++ memo
  dispatched_eq : dispatched q = dispatched p ++ ids
  nodup : ids.Nodup
  fresh : ∀ id ∈ ids, id ∉ path ∧ ∀ s, (id, s) ∉ p.memo
  exist : ∀ id ∈ ids, (graph.node? id).isSome
  remembered : (memo.map Prod.fst).Subperm ids

section Growth

variable {graph : Graph} {setting : Setting σ} {path : List String} {job : Job}
  {p q r : Progress σ} {memo memo' : List (String × Signal)} {ids ids' : List String}

/-- A job that remembers and dispatches nothing. -/
lemma Adds.nothing (hmemo : q.memo = p.memo) (hdispatched : dispatched q = dispatched p) :
    Adds graph path p q [] [] :=
  ⟨by simp [hmemo], by simp [hdispatched], .nil, nofun, nofun, .refl _⟩

/-- A job goes on after a part that remembered all that it dispatched. -/
lemma Adds.trans (h : Adds graph path p q memo ids) (hall : ids ⊆ memo.map Prod.fst)
    (h' : Adds graph path q r memo' ids') : Adds graph path p r (memo ++ memo') (ids ++ ids') := by
  have hdisjoint : ∀ id ∈ ids, id ∉ ids' := by
    intro id hid hid'
    obtain ⟨⟨_, s⟩, hs, rfl⟩ := List.mem_map.1 (hall hid)
    refine (h'.fresh _ hid').2 s ?_
    rw [h.memo_eq]
    exact List.mem_append_right _ hs
  have hearlier : ∀ id s, (id, s) ∈ p.memo → (id, s) ∈ q.memo := by
    intro id s hs
    rw [h.memo_eq]
    exact List.mem_append_left _ hs
  exact {
    memo_eq := by rw [h'.memo_eq, h.memo_eq, List.append_assoc]
    dispatched_eq := by rw [h'.dispatched_eq, h.dispatched_eq, List.append_assoc]
    nodup := List.nodup_append'.2 ⟨h.nodup, h'.nodup, hdisjoint⟩
    fresh := by
      intro id hid
      rcases List.mem_append.1 hid with hid | hid
      · exact h.fresh id hid
      · exact ⟨(h'.fresh id hid).1, fun s hs => (h'.fresh id hid).2 s (hearlier id s hs)⟩
    exist := by
      intro id hid
      rcases List.mem_append.1 hid with hid | hid
      · exact h.exist id hid
      · exact h'.exist id hid
    remembered := by
      rw [List.map_append]
      exact h.remembered.append h'.remembered }

/-- Only memory and dispatched ids before a job matter. -/
lemma Adds.congr {p' : Progress σ} (h : Adds graph path p q memo ids) (hmemo : p'.memo = p.memo)
    (hdispatched : dispatched p' = dispatched p) : Adds graph path p' q memo ids :=
  ⟨hmemo ▸ h.memo_eq, hdispatched ▸ h.dispatched_eq, h.nodup, hmemo ▸ h.fresh, h.exist,
    h.remembered⟩

/-- A program that is dispatched adds its id to what it goes on to add. -/
lemma Adds.enter {id : String} {node : Node} (hpath : id ∉ path) (hm : p.memo.lookup id = none)
    (hn : graph.node? id = some node)
    (h : Adds graph (id :: path) (note id path .entered p) q memo ids) :
    Adds graph path p q memo (id :: ids) := by
  have hnew : id ∉ ids := fun hid => (h.fresh id hid).1 List.mem_cons_self
  exact {
    memo_eq := h.memo_eq
    dispatched_eq := by rw [h.dispatched_eq]; simp [dispatched, note]
    nodup := List.nodup_cons.2 ⟨hnew, h.nodup⟩
    fresh := by
      intro x hx
      rcases List.mem_cons.1 hx with rfl | hx
      · exact ⟨hpath, not_mem_of_lookup hm⟩
      · obtain ⟨hxpath, hxmemo⟩ := h.fresh x hx
        exact ⟨fun hmem => hxpath (List.mem_cons_of_mem id hmem), hxmemo⟩
    exist := List.forall_mem_cons.2 ⟨Option.isSome_iff_exists.2 ⟨node, hn⟩, h.exist⟩
    remembered := h.remembered.trans (List.sublist_cons_self id ids).subperm }

/-- A dispatched program that has ended is remembered with the others. -/
lemma Adds.remember {id : String} (h : Adds graph path p q memo (id :: ids))
    (hmemo : (memo.map Prod.fst).Subperm ids) (s : Signal) :
    Adds graph path p { q with memo := q.memo ++ [(id, s)] } (memo ++ [(id, s)]) (id :: ids) := by
  have hall : ((memo ++ [(id, s)]).map Prod.fst).Subperm (id :: ids) := by
    rw [List.map_append]
    exact (List.perm_append_singleton id _).subperm.trans ((List.subperm_cons id).2 hmemo)
  exact {
    memo_eq := by simp only [h.memo_eq, List.append_assoc]
    dispatched_eq := h.dispatched_eq
    nodup := h.nodup
    fresh := h.fresh
    exist := h.exist
    remembered := hall }

/-- **A job dispatches and remembers new ids only, each once**, and if all goes well it remembers
all that it dispatched.

**Proof sketch.** Induction on the rules. What a program does after a read is new to what the read
has left behind, and that remembers whatever the read dispatched. -/
theorem Runs.adds {result : Except Fault Signal × Progress σ}
    (h : Runs setting path job p result) :
    ∃ memo ids, Adds setting.graph path p result.2 memo ids ∧
      ∀ s, result.1 = .ok s → ids ⊆ memo.map Prod.fst := by
  have hunchanged {path : List String} {p q : Progress σ} {x : Except Fault Signal}
      (hmemo : q.memo = p.memo) (hdispatched : dispatched q = dispatched p) :
      ∃ memo ids, Adds setting.graph path p q memo ids ∧
        ∀ s, x = .ok s → ids ⊆ memo.map Prod.fst :=
    ⟨[], [], .nothing hmemo hdispatched, fun _ _ => List.nil_subset _⟩
  induction h with
  | overridden | recalled | cut | absent =>
    exact hunchanged rfl (by simp [dispatched, note])
  | done | fail => exact hunchanged rfl rfl
  | @entered path id p node s q ho hm hp hn h ih =>
    obtain ⟨memo, ids, hadds, hall⟩ := ih
    refine ⟨memo ++ [(id, s)], id :: ids, (hadds.enter hp hm hn).remember hadds.remembered s,
      fun _ _ => ?_⟩
    rw [List.map_append]
    exact List.cons_subset.2 ⟨by simp, List.subset_append_of_subset_left _ (hall s rfl)⟩
  | failed ho hm hp hn h ih =>
    obtain ⟨memo, ids, hadds, -⟩ := ih
    refine ⟨memo, _, hadds.enter hp hm hn, ?_⟩
    rintro _ ⟨⟩
  | @wired path node socket next p source s q r hs hv h ihv ih =>
    obtain ⟨memo, ids, hadds, hall⟩ := ihv
    obtain ⟨memo', ids', hadds', hall'⟩ := ih
    refine ⟨_, _, hadds.trans (hall s rfl) (hadds'.congr rfl rfl), fun t ht => ?_⟩
    rw [List.map_append]
    exact List.append_subset.2 ⟨List.subset_append_of_subset_left _ (hall s rfl),
      List.subset_append_of_subset_right _ (hall' t ht)⟩
  | broken hs hv ihv =>
    obtain ⟨memo, ids, hadds, -⟩ := ihv
    refine ⟨memo, ids, hadds, ?_⟩
    rintro _ ⟨⟩
  | met hl hm h ih =>
    obtain ⟨hmemo, htrail, -⟩ := meet_keeps hl hm
    obtain ⟨memo, ids, hadds, hall⟩ := ih
    exact ⟨memo, ids, hadds.congr hmemo.symm (dispatched_congr htrail).symm, hall⟩
  | refused hl hm =>
    obtain ⟨hmemo, htrail, -⟩ := meet_keeps hl hm
    exact hunchanged hmemo (dispatched_congr htrail)

end Growth

/-! ## Random nodes -/

/-- A random node has drawn no sample and is not remembered, or it has drawn one and is remembered
with it. Whoever has read it got what is remembered of it. -/
structure Rolled (setting : Setting σ) (id : String) (p : Progress σ) : Prop where
  draws : own id p.exchanges = [] ∧ p.memo.lookup id = none ∨
    ∃ k, own id p.exchanges = [⟨id, .sample, setting.samples k⟩] ∧
      p.memo.lookup id = some ⟨.float (setting.samples k), id⟩
  readers : ∀ node socket s, ⟨node, .read socket, s⟩ ∈ p.exchanges →
    setting.graph.source? node socket = some id → p.memo.lookup id = some s

section Random

variable {setting : Setting σ} {path : List String} {job : Job} {id : String} {node : Node}
  {p q : Progress σ} {r : Except Fault Signal × Progress σ}

/-- Only what is remembered of the node and what was exchanged matters. -/
lemma Rolled.congr (h : Rolled setting id p) (hmemo : q.memo.lookup id = p.memo.lookup id)
    (hexchanges : q.exchanges = p.exchanges) : Rolled setting id q := by
  refine ⟨?_, ?_⟩
  · rw [hmemo, hexchanges]
    exact h.draws
  · rw [hmemo, hexchanges]
    exact h.readers

/-- What another node exchanges is no draw; if it reads the random node, it has to get what is
remembered of it. -/
lemma Rolled.record (h : Rolled setting id p) {exchange : Exchange} (hne : exchange.node ≠ id)
    (hread : ∀ node socket s, exchange = ⟨node, .read socket, s⟩ →
      setting.graph.source? node socket = some id → p.memo.lookup id = some s) :
    Rolled setting id (record exchange p) := by
  have hown : own id (Evaluation.record exchange p).exchanges = own id p.exchanges := by
    simp [own, Evaluation.record, hne]
  refine ⟨hown ▸ h.draws, ?_⟩
  intro node socket s hs hsource
  rcases List.mem_append.1 hs with hs | hs
  · exact h.readers node socket s hs hsource
  · exact hread node socket s (List.mem_singleton.1 hs).symm hsource

/-- Remembering another node changes nothing for a random node. -/
lemma Rolled.remember (h : Rolled setting id p) {other : String} (hne : other ≠ id) (s : Signal) :
    Rolled setting id { p with memo := p.memo ++ [(other, s)] } := by
  have hother : (id == other) = false := by simpa using Ne.symm hne
  refine h.congr ?_ rfl
  simp [List.lookup_append, List.lookup_cons, hother]

/-- The program of a random node draws a sample and ends with it. -/
lemma Runs.of_random (hkind : node.kind? = some .random)
    (h : Runs setting path (.rest node node.program) p r) :
    r = (.ok ⟨.float (setting.samples p.drawn), node.id⟩,
      record ⟨node.id, .sample, setting.samples p.drawn⟩ { p with drawn := p.drawn + 1 }) := by
  have hprogram : node.program = .ask .sample fun x => .done (.made (.float x)) := by
    simp only [Node.program, hkind]
    rfl
  rw [hprogram] at h
  exact (Runs.met (fun _ h => by cases h) (fun _ => rfl) .done).unique h

/-- A random node that is dispatched has drawn no sample before, and is remembered with the one it
draws. -/
lemma Rolled.drawn (h : Rolled setting id p) (hm : p.memo.lookup id = none) {s : Signal}
    (hn : setting.graph.node? id = some node) (hkind : node.kind? = some .random)
    (hrun : Runs setting (id :: path) (.rest node node.program) (note id path .entered p)
      (.ok s, q)) :
    Rolled setting id { q with memo := q.memo ++ [(id, s)] } ∧
      (q.memo ++ [(id, s)]).lookup id = some s := by
  obtain rfl := Graph.id_of_node? hn
  cases hrun.of_random hkind
  have hlookup : (p.memo ++ [(node.id, (⟨.float (setting.samples p.drawn), node.id⟩ : Signal))]).lookup
      node.id = some ⟨.float (setting.samples p.drawn), node.id⟩ := by
    simp [List.lookup_append, hm]
  have hsilent : own node.id p.exchanges = [] := by
    rcases h.draws with ⟨hown, -⟩ | ⟨k, -, hk⟩
    · exact hown
    · cases hm.symm.trans hk
  refine ⟨⟨.inr ⟨p.drawn, ?_, hlookup⟩, ?_⟩, hlookup⟩
  · rw [own_record_self]
    show own node.id p.exchanges ++ _ = _
    rw [hsilent]
    rfl
  · intro other socket t ht hsource
    rcases List.mem_append.1 ht with ht | ht
    · cases hm.symm.trans (h.readers other socket t ht hsource)
    · cases List.mem_singleton.1 ht

/-- **Random nodes draw once**, and whoever asks for one gets the sample it has drawn.

**Proof sketch.** Induction on the rules, off the path of the node. Its program asks for nothing
but a sample, so it never waits: when it is asked for, it is remembered or draws at once. -/
theorem Runs.rolled (h : Runs setting path job p r) (hn : setting.graph.node? id = some node)
    (hkind : node.kind? = some .random) (ho : Fields.get? setting.overrides id = none)
    (hpath : id ∉ path) (hj : job.Avoids id) (hp : Rolled setting id p) :
    Rolled setting id r.2 ∧
      (job = .value id → ∃ s, r.1 = .ok s ∧ r.2.memo.lookup id = some s) := by
  induction h with
  | overridden hv =>
    refine ⟨hp.congr rfl rfl, ?_⟩
    rintro ⟨⟩
    cases ho.symm.trans hv
  | recalled _ hs =>
    refine ⟨hp.congr rfl rfl, ?_⟩
    rintro ⟨⟩
    exact ⟨_, rfl, hs⟩
  | cut _ _ hid =>
    refine ⟨hp.congr rfl rfl, ?_⟩
    rintro ⟨⟩
    exact absurd hid hpath
  | absent _ _ _ hnone =>
    refine ⟨hp.congr rfl rfl, ?_⟩
    rintro ⟨⟩
    cases hnone.symm.trans hn
  | @entered path other p node' s q _ hm _ hn' h ih =>
    by_cases hother : other = id
    · subst hother
      cases hn'.symm.trans hn
      obtain ⟨hrolled, hlookup⟩ := hp.drawn hm hn hkind h
      exact ⟨hrolled, fun _ => ⟨s, rfl, hlookup⟩⟩
    · have hpath' : id ∉ other :: path := by
        simpa [Ne.symm hother] using hpath
      obtain ⟨hq, -⟩ := ih hpath' (by rwa [Job.Avoids, Graph.id_of_node? hn']) (hp.congr rfl rfl)
      refine ⟨hq.remember hother s, ?_⟩
      rintro ⟨⟩
      exact absurd rfl hother
  | @failed path other p node' f q _ hm _ hn' h ih =>
    by_cases hother : other = id
    · subst hother
      cases hn'.symm.trans hn
      cases h.of_random hkind
    · have hpath' : id ∉ other :: path := by
        simpa [Ne.symm hother] using hpath
      obtain ⟨hq, -⟩ := ih hpath' (by rwa [Job.Avoids, Graph.id_of_node? hn']) (hp.congr rfl rfl)
      refine ⟨hq, ?_⟩
      rintro ⟨⟩
      exact absurd rfl hother
  | done | fail =>
    refine ⟨hp, ?_⟩
    rintro ⟨⟩
  | @wired path reader socket next p source s q r hs hv h ihv ih =>
    obtain ⟨hq, hsource⟩ := ihv hpath trivial hp
    refine ⟨(ih hpath hj (hq.record hj ?_)).1, by rintro ⟨⟩⟩
    rintro _ _ _ ⟨⟩ hfeeds
    cases hs.symm.trans hfeeds
    obtain ⟨t, ht, hlookup⟩ := hsource rfl
    cases ht
    exact hlookup
  | broken _ _ ihv => exact ⟨(ihv hpath trivial hp).1, by rintro ⟨⟩⟩
  | @met path reader request next p a q r hl hm h ih =>
    obtain ⟨hmemo, -, hexchanges⟩ := meet_keeps hl hm
    have hq : Rolled setting id q := hp.congr (by rw [hmemo]) hexchanges
    refine ⟨(ih hpath hj (hq.record hj ?_)).1, by rintro ⟨⟩⟩
    rintro _ socket _ heq hfeeds
    cases heq
    exact absurd hfeeds hl.not_wired
  | refused hl hm =>
    obtain ⟨hmemo, -, hexchanges⟩ := meet_keeps hl hm
    exact ⟨hp.congr (by rw [hmemo]) hexchanges, by rintro ⟨⟩⟩

end Random

/-! ## Samples -/

/-- The exchanges in which a sample was drawn. -/
def drawings (exchanges : List Exchange) : List Exchange :=
  exchanges.filter (·.request = .sample)

lemma length_drawings_record (id : String) (request : Request) (a : request.Answer)
    (p : Progress σ) : (drawings (record ⟨id, request, a⟩ p).exchanges).length =
      (drawings p.exchanges).length + if request = .sample then 1 else 0 := by
  by_cases h : request = .sample <;> simp [drawings, record, h]

lemma drawn_effect (setting : Setting σ) (node : Node) (request : Request) (p : Progress σ) :
    (effect setting node request p).drawn = p.drawn + if request = .sample then 1 else 0 := by
  cases request <;> rfl

/-- Every drawn sample went to a program that asked for it. -/
lemma Runs.drawn {setting : Setting σ} {path : List String} {job : Job} {p : Progress σ}
    {r : Except Fault Signal × Progress σ} (h : Runs setting path job p r) :
    r.2.drawn + (drawings p.exchanges).length = p.drawn + (drawings r.2.exchanges).length := by
  induction h with
  | overridden | recalled | cut | absent | done | fail => rfl
  | entered _ _ _ _ _ ih | failed _ _ _ _ _ ih => exact ih
  | @wired _ _ _ _ _ _ _ q _ _ _ _ ihv ih =>
    rw [length_drawings_record, if_neg nofun] at ih
    simp only [record] at ihv ih
    omega
  | broken _ _ ihv => exact ihv
  | @met _ node request _ p a q _ hl hm _ ih =>
    have hdrawn := drawn_effect setting node request p
    rw [← eq_effect_of_meet hl hm] at hdrawn
    rw [length_drawings_record, (meet_keeps hl hm).2.2] at ih
    simp only [record] at ih
    omega
  | @refused _ node request _ p f q hl hm =>
    have hne : request ≠ .sample := by
      rintro rfl
      cases hm fun id p => (.ok ⟨.null, id⟩, p)
    have hdrawn := drawn_effect setting node request p
    rw [← eq_effect_of_meet hl hm, if_neg hne] at hdrawn
    simp only [(meet_keeps hl hm).2.2]
    omega

/-! ## Requests from outside -/

section Requests

variable {setting : Setting σ} {p : Progress σ}

/-- What is remembered is remembered once. -/
lemma Reached.nodup_memo (h : Reached setting p) : (p.memo.map Prod.fst).Nodup := by
  refine h.induct (P := fun p => (p.memo.map Prod.fst).Nodup) (fun _ _ _ => List.nodup_nil) ?_
  intro id p r hr hp
  obtain ⟨memo, ids, hadds, -⟩ := hr.adds
  obtain ⟨l, hperm, hsub⟩ := hadds.remembered
  have hnew : (memo.map Prod.fst).Nodup := hperm.nodup_iff.1 (hsub.nodup hadds.nodup)
  rw [hadds.memo_eq, List.map_append]
  refine List.nodup_append'.2 ⟨hp, hnew, ?_⟩
  intro x hx hx'
  obtain ⟨⟨_, s⟩, hs, rfl⟩ := List.mem_map.1 hx
  exact (hadds.fresh _ (hadds.remembered.subset hx')).2 s hs

/-- Every random node has drawn once at most. -/
lemma Reached.rolled (h : Reached setting p) {id : String} {node : Node}
    (hn : setting.graph.node? id = some node) (hkind : node.kind? = some .random)
    (ho : Fields.get? setting.overrides id = none) : Rolled setting id p := by
  refine h.induct (fun _ _ _ => ⟨.inl ⟨rfl, rfl⟩, nofun⟩) ?_
  intro other p r hr hp
  exact (hr.rolled hn hkind ho List.not_mem_nil trivial hp).1

/-- Every exchange was made by a needed node. -/
lemma Reached.madeByNode (h : Reached setting p) :
    ∀ exchange ∈ p.exchanges, MadeByNode setting p exchange := by
  refine h.induct (P := fun p => ∀ exchange ∈ p.exchanges, MadeByNode setting p exchange)
    (fun _ _ _ => nofun) ?_
  intro id p r hr hp
  exact hr.madeByNode trivial nofun hp

/-- No node draws twice, whatever its kind. -/
lemma Reached.draws_once (h : Reached setting p) (id : String) :
    (drawings (own id p.exchanges)).length ≤ 1 := by
  rcases hdrawings : drawings (own id p.exchanges) with _ | ⟨exchange, rest⟩
  · exact Nat.zero_le 1
  obtain ⟨hmem, hsample⟩ := List.mem_filter.1 (hdrawings ▸ List.mem_cons_self :
    exchange ∈ drawings (own id p.exchanges))
  obtain ⟨hmem, hid⟩ := List.mem_filter.1 hmem
  obtain ⟨⟨-, ho⟩, node, kind, hn, hkind, hask⟩ := h.madeByNode exchange hmem
  obtain ⟨other, request, a⟩ := exchange
  obtain rfl : other = id := by simpa using hid
  obtain rfl : request = .sample := by simpa using hsample
  obtain rfl : kind = .random := hask
  have hlength : (drawings (own other p.exchanges)).length ≤ (own other p.exchanges).length :=
    List.length_filter_le _ _
  rw [hdrawings] at hlength
  rcases (h.rolled hn hkind ho).draws with ⟨hown, -⟩ | ⟨k, hown, -⟩
  · rw [hown] at hlength
    exact Nat.le_trans hlength (Nat.zero_le 1)
  · rwa [hown] at hlength

/-- What a request from outside for the node `id` does, laid open step by step, when the progress
`p` has been made. -/
structure Orderly (setting : Setting σ) (id : String) (p : Progress σ) : Prop where
  /-- There is no infinite row of steps. -/
  ends : Acc (fun after before => step setting before = some after) (.start id p)
  /-- The last machine holds what the recursion computes, and nothing is running, whether that is
  a signal or a fault. -/
  answered : Leads setting (.start id p)
    ⟨.answer (signal setting id p).1, [], [], (signal setting id p).2⟩
  /-- At every step the running ids are those of the programs under way, all distinct, and so no
  more than there are ids in the graph. -/
  nested : ∀ m, Leads setting (.start id p) m → m.running = m.inside ∧ m.running.Nodup ∧
    m.running.length ≤ (setting.graph.nodes.map (·.id)).dedup.length
  /-- Every request on the way is answered, with a signal or a fault, as the recursion answers it,
  and leaves the waiting programs and the running ids as they were. -/
  restored : ∀ m other, Leads setting (.start id p) m → m.task = .call other →
    let r := value setting (depthOf setting.graph) m.running other m.progress
    Leads setting m ⟨.answer r.1, m.callers, m.running, r.2⟩
  /-- What is remembered at some step is remembered in the same way at every later one. -/
  kept : ∀ m m', Leads setting (.start id p) m → Leads setting m m' →
    p.memo <+: m.progress.memo ∧ m.progress.memo <+: m'.progress.memo
  /-- No program was completed twice, neither now nor before. -/
  completed : ((signal setting id p).2.memo.map Prod.fst).Nodup
  /-- The request dispatched no program twice. -/
  dispatched : ∃ ids, dispatched (signal setting id p).2 = dispatched p ++ ids ∧ ids.Nodup ∧
    ids.length ≤ (setting.graph.nodes.map (·.id)).dedup.length
  /-- All samples went to programs that asked for them, and none asked twice. -/
  drawn : (signal setting id p).2.drawn + (drawings p.exchanges).length =
    p.drawn + (drawings (signal setting id p).2.exchanges).length
  drawnOnce : ∀ other, (drawings (own other (signal setting id p).2.exchanges)).length ≤ 1
  /-- All readers of a random node got the sample that it has drawn, and so does who asks for it
  from outside. -/
  rolled : ∀ other node, setting.graph.node? other = some node → node.kind? = some .random →
    Fields.get? setting.overrides other = none → Rolled setting other (signal setting id p).2 ∧
      (other = id → ∃ s, (signal setting id p).1 = .ok s ∧
        (signal setting id p).2.memo.lookup id = some s)

/-- **Every request from outside ends and runs each node at most once**, on every graph, with
cycles, loose ends and shared ids, and after any number of requests, whether or not these
succeeded. -/
theorem signal_orderly (h : Reached setting p) (id : String) : Orderly setting id p := by
  have hruns := signal_runs setting id p
  have hlater : Reached setting (signal setting id p).2 := h.signal id
  have htidy : ∀ m, Leads setting (.start id p) m → m.Tidy setting.graph := by
    intro m hm
    exact hm.keeps (fun _ _ => step_tidy) (tidy_start setting.graph id p)
  have hends := machine_halts setting id p
  exact {
    ends := hends.acc rfl
    answered := hends
    nested := fun m hm => ⟨(htidy m hm).running, (htidy m hm).nodup, (htidy m hm).length_le⟩
    restored := fun m other hm htask => call_returns setting (htidy m hm) htask
    kept := fun m m' hm hm' => ⟨hm.memo, hm'.memo⟩
    completed := hlater.nodup_memo
    dispatched := by
      obtain ⟨memo, ids, hadds, -⟩ := hruns.adds
      exact ⟨ids, hadds.dispatched_eq, hadds.nodup, length_le_dedup hadds.nodup hadds.exist⟩
    drawn := hruns.drawn
    drawnOnce := hlater.draws_once
    rolled := by
      intro other node hn hkind ho
      obtain ⟨hrolled, hanswer⟩ := hruns.rolled hn hkind ho List.not_mem_nil trivial
        (h.rolled hn hkind ho)
      refine ⟨hrolled, ?_⟩
      rintro rfl
      exact hanswer rfl }

/-- A die that is read by a sum and, with the sum, by a loop; another node has the id of the die, and
a connection comes from nowhere. -/
def dice : Graph where
  nodes := [⟨"die", "RANDOM", []⟩, ⟨"die", "TEXT", [("value", .str "two")]⟩, ⟨"loop", "ADD", []⟩,
    ⟨"sum", "ADD", []⟩]
  connections := [⟨"die", "loop", "in-a"⟩, ⟨"sum", "loop", "in-b"⟩, ⟨"die", "sum", "in-a"⟩,
    ⟨"loop", "sum", "in-b"⟩, ⟨"nowhere", "die", "in-a"⟩]
  id := .null
  name := .null

/-- The dice with two samples, a quarter and then one half. -/
def thrown : Setting Unit :=
  { Setting.alone dice with samples := fun k => if k = 0 then 0.25 else 0.5 }

/-- The loop and the sum read the die, which draws one sample for both. -/
theorem dice_orderly :
    let p := (signal thrown "loop" (.start [] 0 ())).2
    Reached thrown p ∧ Orderly thrown "sum" p ∧ p.drawn = 1 ∧
      (signal thrown "sum" p).1 = .ok ⟨.float 0.25, "sum"⟩ ∧ (signal thrown "sum" p).2.drawn = 1 := by
  intro p
  have hreached : Reached thrown p := .signal (.start [] 0 ()) "loop"
  exact ⟨hreached, signal_orderly hreached "sum", by decide +kernel, by decide +kernel,
    by decide +kernel⟩

end Requests

end Evaluation

end DesignGraph
