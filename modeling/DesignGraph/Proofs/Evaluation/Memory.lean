import DesignGraph.Proofs.Evaluation.Dialogue
import DesignGraph.Proofs.Evaluation.Once
import Mathlib.Logic.Relation
/-!
# What is remembered

While all goes well, the memory of an evaluation tells everything about the programs that have
ended. Each of its entries is the result of a dialogue that its node has had, and the entries stand
in an order in which nodes come after what they have read. Only three sorts of reads are no matter
of memory: an override, a missing node, and a cycle that is cut, and the last two give null. So the
reads that give something else than null never close a cycle.

## Main definitions

* `DesignGraph.Evaluation.Supplied` — where an answer to a read has come from.
* `DesignGraph.Evaluation.Recounted` — memory and exchanges tell of the same dialogues.
* `DesignGraph.Evaluation.Fed` — a node has read something else than null of another one.

## Main results

* `DesignGraph.Evaluation.Runs.recounted` — a job that succeeds keeps memory and exchanges in line.
* `DesignGraph.Evaluation.Recounted.not_fed_self` — reads of something else than null close no
  cycle.
-/

set_option relaxedAutoImplicit false
set_option autoImplicit false

namespace DesignGraph

open Relation

namespace Evaluation

variable {σ : Type}

/-- Where the answer `s` to a read of the node `source` by the node `reader` has come from: from an
override, as null from nowhere or from a cut, or from the memory, in which it comes before
`reader`. -/
inductive Supplied (setting : Setting σ) (p : Progress σ) (source reader : String)
    (s : Signal) : Prop
  | overridden (hv : (Fields.get? setting.overrides source).isSome)
  | absent (hn : setting.graph.node? source = none) (hs : s.value = .null)
  | cut (hc : ∃ path, ⟨source, path, .cut⟩ ∈ p.trail) (hs : s.value = .null)
  | remembered (hm : (source, s) ∈ p.memo)
    (hearlier : ∀ l₁ l₂ t, p.memo = l₁ ++ (reader, t) :: l₂ → (source, s) ∈ l₁)

/-- An evaluation in which memory and exchanges tell of the same dialogues, while the programs on
`path` are running. -/
structure Recounted (setting : Setting σ) (path : List String) (p : Progress σ) : Prop where
  /-- What runs is not remembered. -/
  running : ∀ id ∈ path, ∀ s, (id, s) ∉ p.memo
  /-- What neither runs nor is remembered has exchanged nothing. -/
  silent : ∀ id, id ∉ path → (∀ s, (id, s) ∉ p.memo) → own id p.exchanges = []
  /-- What is remembered is the result of a dialogue of its node, which is not overridden. -/
  results : ∀ id s, (id, s) ∈ p.memo → Fields.get? setting.overrides id = none ∧
    ∃ node last final o, setting.graph.node? id = some node ∧ o.signal id = s ∧
      Dialogue id node.program last (own id p.exchanges) final o
  /-- What is read of a wired socket has come from somewhere. -/
  reads : ∀ reader socket s source, ⟨reader, .read socket, s⟩ ∈ p.exchanges →
    setting.graph.source? reader socket = some source → Supplied setting p source reader s

section Steps

variable {setting : Setting σ} {path : List String} {p q : Progress σ} {source reader id : String}
  {s t : Signal}

/-- A supply lasts as long as the memory does. -/
lemma Supplied.mono (h : Supplied setting p source reader s) (hmemo : q.memo = p.memo)
    (htrail : p.trail ⊆ q.trail) : Supplied setting q source reader s := by
  cases h with
  | overridden hv => exact .overridden hv
  | absent hn hs => exact .absent hn hs
  | cut hc hs => exact .cut (hc.imp fun _ h => htrail h) hs
  | remembered hm hearlier => exact .remembered (hmemo ▸ hm) (hmemo ▸ hearlier)

/-- What is remembered later comes after what has been read. -/
lemma Supplied.remember (h : Supplied setting p source reader s) (id : String) (t : Signal) :
    Supplied setting { p with memo := p.memo ++ [(id, t)] } source reader s := by
  cases h with
  | overridden hv => exact .overridden hv
  | absent hn hs => exact .absent hn hs
  | cut hc hs => exact .cut hc hs
  | remembered hm hearlier =>
    refine .remembered (List.mem_append_left _ hm) fun l₁ l₂ u hsplit => ?_
    rcases List.eq_nil_or_concat l₂ with rfl | ⟨l₂, last, rfl⟩
    · obtain ⟨rfl, -⟩ := List.append_inj' hsplit rfl
      exact hm
    · rw [List.concat_eq_append, ← List.cons_append, ← List.append_assoc] at hsplit
      exact hearlier l₁ l₂ u (List.append_inj' hsplit rfl).1

/-- A request for a node that succeeds supplies it to whoever is not remembered yet. -/
lemma Runs.supplied (h : Runs setting path (.value source) p (.ok s, q))
    (hreader : ∀ t, (reader, t) ∉ q.memo) : Supplied setting q source reader s := by
  have hremembered (hm : (source, s) ∈ q.memo) : Supplied setting q source reader s := by
    refine .remembered hm fun l₁ l₂ t hsplit => absurd ?_ (hreader t)
    rw [hsplit]
    simp
  cases h with
  | overridden hv => exact .overridden (hv ▸ rfl)
  | recalled _ hs => exact hremembered (mem_of_lookup hs)
  | cut => exact .cut ⟨path, List.mem_append_right _ List.mem_cons_self⟩ rfl
  | absent _ _ _ hn => exact .absent hn rfl
  | entered => exact hremembered (by simp)

/-- Nothing has happened at the start. -/
lemma recounted_start (setting : Setting σ) (triggers : Fields) (drawn : Nat) (outlet : σ) :
    Recounted setting [] (.start triggers drawn outlet) :=
  ⟨nofun, fun _ _ _ => rfl, nofun, nofun⟩

/-- Only memory, exchanges and the trail so far matter. -/
lemma Recounted.congr (h : Recounted setting path p) (hmemo : q.memo = p.memo)
    (hexchanges : q.exchanges = p.exchanges) (htrail : p.trail ⊆ q.trail) :
    Recounted setting path q := by
  refine ⟨hmemo ▸ h.running, hmemo ▸ hexchanges ▸ h.silent, hmemo ▸ hexchanges ▸ h.results, ?_⟩
  intro reader socket s source hs hsource
  exact (h.reads reader socket s source (hexchanges ▸ hs) hsource).mono hmemo htrail

/-- A node that is entered runs with the others. -/
lemma Recounted.enter (h : Recounted setting path p) (hm : p.memo.lookup id = none) :
    Recounted setting (id :: path) (note id path .entered p) := by
  have hnoted : Recounted setting path (note id path .entered p) :=
    h.congr rfl rfl (List.subset_append_left _ _)
  refine ⟨List.forall_mem_cons.2 ⟨not_mem_of_lookup hm, hnoted.running⟩, ?_, hnoted.results,
    hnoted.reads⟩
  exact fun id hid => hnoted.silent id fun hmem => hid (List.mem_cons_of_mem _ hmem)

/-- A running program may exchange something; if it reads a wired socket, that has to come from
somewhere. -/
lemma Recounted.record (h : Recounted setting path p) {node : Node} (hpath : node.id ∈ path)
    {request : Request} {a : request.Answer}
    (hread : ∀ socket s source, (⟨node.id, request, a⟩ : Exchange) = ⟨node.id, .read socket, s⟩ →
      setting.graph.source? node.id socket = some source → Supplied setting p source node.id s) :
    Recounted setting path (record ⟨node.id, request, a⟩ p) where
  running := h.running
  silent id hid hfresh := by
    have hne : node.id ≠ id := fun heq => hid (heq ▸ hpath)
    rw [own_record_of_ne hne]
    exact h.silent id hid hfresh
  results id s hs := by
    have hne : node.id ≠ id := fun heq => h.running node.id hpath s (heq ▸ hs)
    rw [own_record_of_ne hne]
    exact h.results id s hs
  reads reader socket s source hs hsource := by
    rcases List.mem_append.1 hs with hs | hs
    · exact (h.reads reader socket s source hs hsource).mono rfl (List.Subset.refl _)
    · have hnew := List.mem_singleton.1 hs
      obtain rfl : reader = node.id := congrArg Exchange.node hnew
      exact (hread socket s source hnew.symm hsource).mono rfl (List.Subset.refl _)

/-- A program that ends is remembered with the result of its dialogue. -/
lemma Recounted.remember (h : Recounted setting (id :: path) q) (hpath : id ∉ path) {node : Node}
    {last final : Option Value} {o : Outcome} (ho : Fields.get? setting.overrides id = none)
    (hn : setting.graph.node? id = some node)
    (hd : Dialogue id node.program last (own id q.exchanges) final o) :
    Recounted setting path { q with memo := q.memo ++ [(id, o.signal id)] } where
  running other hother t ht := by
    rcases List.mem_append.1 ht with ht | ht
    · exact h.running other (List.mem_cons_of_mem _ hother) t ht
    · cases List.mem_singleton.1 ht
      exact hpath hother
  silent other hother hfresh := by
    refine h.silent other ?_ fun t ht => hfresh t (List.mem_append_left _ ht)
    rintro (_ | ⟨_, hmem⟩)
    · exact hfresh _ (List.mem_append_right _ List.mem_cons_self)
    · exact hother hmem
  results other t ht := by
    rcases List.mem_append.1 ht with ht | ht
    · exact h.results other t ht
    · cases List.mem_singleton.1 ht
      exact ⟨ho, node, last, final, o, hn, rfl, hd⟩
  reads reader socket s source hs hsource :=
    (h.reads reader socket s source hs hsource).remember id _

/-- **A job that succeeds keeps memory and exchanges in line.**

**Proof sketch.** Induction on the rules. A program that is entered has exchanged nothing before,
so when it ends its exchanges are those of one dialogue, from its first request on. -/
theorem Runs.recounted {job : Job} {r : Except Fault Signal × Progress σ}
    (h : Runs setting path job p r) (hr : r.1 = .ok s)
    (hj : ∀ node program, job = .rest node program → node.id ∈ path)
    (hp : Recounted setting path p) : Recounted setting path r.2 := by
  induction h generalizing s with
  | overridden | recalled | cut | absent =>
    exact hp.congr rfl rfl (List.subset_append_left _ _)
  | @entered path id p node s q hfree hm hid hn h ih =>
    have hnode : node.id = id := Graph.id_of_node? hn
    have hq := ih rfl (by rintro _ _ ⟨⟩; simp [hnode]) (hp.enter hm)
    obtain ⟨exchanges, o, happend, rfl, hd⟩ := h.dialogue rfl _ _ rfl (by simp [hnode])
    have hsilent : own id p.exchanges = [] := hp.silent id hid (not_mem_of_lookup hm)
    rw [hnode] at happend hd ⊢
    have hall : own id q.exchanges = exchanges := by
      rw [happend, note, hsilent, List.nil_append]
    exact hq.remember hid hfree hn (hall ▸ hd)
  | failed | fail | broken | refused => cases hr
  | done => exact hp
  | @wired path node socket next p source s q r hs hv _ ihv ih =>
    have hpath : node.id ∈ path := hj _ _ rfl
    have hq : Recounted setting path q := ihv rfl (by rintro _ _ ⟨⟩) hp
    refine ih hr (by rintro _ _ ⟨⟩; exact hpath) (hq.record hpath ?_)
    rintro _ _ _ ⟨⟩ hsource
    cases hs.symm.trans hsource
    exact hv.supplied (hq.running _ hpath)
  | @met path node request next p a q r hl hm _ ih =>
    have hpath : node.id ∈ path := hj _ _ rfl
    obtain ⟨hmemo, htrail, hexchanges⟩ := meet_keeps hl hm
    have hq : Recounted setting path q := hp.congr hmemo hexchanges (htrail ▸ List.Subset.refl _)
    refine ih hr (by rintro _ _ ⟨⟩; exact hpath) (hq.record hpath ?_)
    rintro socket _ _ ⟨⟩ hsource
    rw [hl socket rfl] at hsource
    cases hsource

/-- A row of requests that succeed keeps memory and exchanges in line. -/
lemma Asked.recounted {ids : List String} (h : Asked setting ids p q)
    (hp : Recounted setting [] p) : Recounted setting [] q := by
  induction h with
  | nil => exact hp
  | cons hs _ ih => exact ih ((runs_of_signal hs).recounted rfl nofun hp)

end Steps

/-! ## Reads that close a cycle -/

/-- The node `reader`, which is not overridden, has read something else than null of the node
`source`, which is not overridden either. -/
def Fed (setting : Setting σ) (p : Progress σ) (reader source : String) : Prop :=
  Fields.get? setting.overrides source = none ∧ ∃ socket s, s.value ≠ .null ∧
    ⟨reader, .read socket, s⟩ ∈ p.exchanges ∧
    setting.graph.source? reader socket = some source

section Cycles

variable {setting : Setting σ} {path : List String} {p : Progress σ} {source reader : String}

/-- What feeds a node is remembered before it. -/
lemma Recounted.earlier_of_fed (h : Recounted setting path p) (hfed : Fed setting p reader source) :
    ∃ s, (source, s) ∈ p.memo ∧
      ∀ l₁ l₂ t, p.memo = l₁ ++ (reader, t) :: l₂ → (source, s) ∈ l₁ := by
  obtain ⟨ho, socket, s, hs, hread, hsource⟩ := hfed
  cases h.reads reader socket s source hread hsource with
  | overridden hv => simp [ho] at hv
  | absent _ hnull | cut _ hnull => exact absurd hnull hs
  | remembered hm hearlier => exact ⟨s, hm, hearlier⟩

/-- What feeds a node along several reads is remembered before it. -/
lemma Recounted.earlier_of_transGen (h : Recounted setting path p)
    (hfed : TransGen (Fed setting p) reader source) :
    ∃ s, (source, s) ∈ p.memo ∧
      ∀ l₁ l₂ t, p.memo = l₁ ++ (reader, t) :: l₂ → (source, s) ∈ l₁ := by
  induction hfed with
  | single hfed => exact h.earlier_of_fed hfed
  | tail _ hfed ih =>
    obtain ⟨s, -, hearlier⟩ := ih
    obtain ⟨t, ht, hearlier'⟩ := h.earlier_of_fed hfed
    refine ⟨t, ht, fun l₁ l₂ u hsplit => ?_⟩
    obtain ⟨l, l', hl⟩ := List.append_of_mem (hearlier l₁ l₂ u hsplit)
    rw [hl, List.append_assoc, List.cons_append] at hsplit
    rw [hl]
    exact List.mem_append_left _ (hearlier' l _ s hsplit)

/-- **Reads of something else than null close no cycle.**

**Proof sketch.** Else a node would be remembered before itself, and again before that. -/
theorem Recounted.not_fed_self (h : Recounted setting path p) (id : String) :
    ¬TransGen (Fed setting p) id id := by
  intro hfed
  obtain ⟨s, hs, hearlier⟩ := h.earlier_of_transGen hfed
  obtain ⟨l₁, l₂, hsplit⟩ := List.append_of_mem hs
  -- descend along ever shorter beginnings of the memory
  induction hlength : l₁.length using Nat.strongRecOn generalizing l₁ l₂ with
  | _ n ih =>
    obtain ⟨l, l', rfl⟩ := List.append_of_mem (hearlier l₁ l₂ s hsplit)
    rw [List.append_assoc, List.cons_append] at hsplit
    refine ih l.length ?_ l _ hsplit rfl
    simp only [List.length_append, List.length_cons] at hlength
    omega

end Cycles

end Evaluation

end DesignGraph
