import DesignGraph.Proofs.Evaluation.Cut
import DesignGraph.Proofs.Evaluation.Footprint
import DesignGraph.Proofs.Evaluation.Memory
/-!
# The order of what is remembered

A node is remembered when its program ends, which is after the ends of all programs that it has
waited for. So the memory of an evaluation is a topological order of what was asked for, over any
number of requests from outside, as long as nothing is cut; and it holds all of it but the nodes
that never run, since they are overridden or missing.

## Main definitions

* `DesignGraph.Evaluation.CalledBy` — the program of one node was waiting for another.
* `DesignGraph.Evaluation.Covered` — what was asked for and can run is running or remembered.
* `DesignGraph.Evaluation.Postorder` — the memory as an order of what was asked for.

## Main results

* `DesignGraph.Evaluation.Runs.covered` — a job that succeeds remembers what it asks for.
* `DesignGraph.Evaluation.Asked.calledBy_iff` — programs wait for what they read.
* `DesignGraph.Evaluation.memory_postorder` — what is remembered is a topological order.
-/

set_option relaxedAutoImplicit false
set_option autoImplicit false

namespace DesignGraph

namespace Evaluation

variable {σ : Type} {setting : Setting σ} {path : List String} {job : Job} {p q : Progress σ}
  {r : Except Fault Signal × Progress σ} {ids : List String} {reader source : String}

/-! ## What was asked for is remembered -/

/-- Every node that was asked for, exists and is not overridden is running or remembered. -/
def Covered (setting : Setting σ) (path : List String) (p : Progress σ) : Prop :=
  ∀ visit ∈ p.trail, (setting.graph.node? visit.id).isSome →
    Fields.get? setting.overrides visit.id = none →
    visit.id ∈ path ∨ visit.id ∈ p.memo.map Prod.fst

/-- A request is covered if its node cannot run, is running or is remembered. -/
lemma Covered.note {id : String} {outer : List String} {answer : Answer}
    (h : Covered setting path p)
    (hid : (setting.graph.node? id).isSome → Fields.get? setting.overrides id = none →
      id ∈ path ∨ id ∈ p.memo.map Prod.fst) :
    Covered setting path (note id outer answer p) := by
  intro visit hv
  rcases List.mem_append.1 hv with hv | hv
  · exact h visit hv
  · rw [List.mem_singleton.1 hv]
    exact hid

/-- **A job that succeeds remembers what it asks for**, unless it is running or cannot run.

**Proof sketch.** Induction on the rules. A node that is entered is running from then on, and it is
remembered when its program ends. -/
theorem Runs.covered (h : Runs setting path job p r) {s : Signal} (hr : r.1 = .ok s)
    (hp : Covered setting path p) : Covered setting path r.2 := by
  induction h generalizing s with
  | overridden hv =>
    refine hp.note fun _ ho => ?_
    cases ho.symm.trans hv
  | recalled _ hs => exact hp.note fun _ _ => .inr (List.mem_map_of_mem (mem_of_lookup hs))
  | cut _ _ hid => exact hp.note fun _ _ => .inl hid
  | absent _ _ _ hn =>
    refine hp.note fun hsome _ => ?_
    rw [hn] at hsome
    cases hsome
  | @entered path id p node s q _ _ _ _ _ ih =>
    have hinside : Covered setting (id :: path) p := fun visit hv hsome ho =>
      (hp visit hv hsome ho).imp_left (List.mem_cons_of_mem id)
    have hq := ih rfl (hinside.note fun _ _ => .inl List.mem_cons_self)
    intro visit hv hsome ho
    rw [List.map_append, List.mem_append]
    rcases hq visit hv hsome ho with hid | hid
    · rcases List.mem_cons.1 hid with hid | hid
      · exact .inr (.inr (hid ▸ List.mem_cons_self))
      · exact .inl hid
    · exact .inr (.inl hid)
  | failed | fail | broken | refused => cases hr
  | done => exact hp
  | wired _ _ _ ihv ih => exact ih hr (ihv rfl hp)
  | met hl hm _ ih =>
    obtain ⟨hmemo, htrail, -⟩ := meet_keeps hl hm
    refine ih hr fun visit hv => ?_
    simp only [record, hmemo]
    exact hp visit (htrail ▸ hv)

/-- Every node that is remembered was asked for, since its program was dispatched. -/
lemma Reached.traced (h : Reached setting q) :
    ∀ id ∈ q.memo.map Prod.fst, ∃ visit ∈ q.trail, visit.id = id := by
  refine h.induct (P := fun p => ∀ id ∈ p.memo.map Prod.fst, ∃ visit ∈ p.trail, visit.id = id)
    (fun _ _ _ => nofun) ?_
  intro _ p r hr hp id hid
  obtain ⟨memo, ids, hadds, -⟩ := hr.adds
  rw [hadds.memo_eq, List.map_append, List.mem_append] at hid
  rcases hid with hid | hid
  · obtain ⟨visit, hv, heq⟩ := hp id hid
    exact ⟨visit, hr.extends.trail hv, heq⟩
  · have hdispatched : id ∈ dispatched r.2 := by
      rw [hadds.dispatched_eq]
      exact List.mem_append_right _ (hadds.remembered.subset hid)
    obtain ⟨visit, hv, rfl⟩ := List.mem_map.1 hdispatched
    exact ⟨visit, (List.mem_filter.1 hv).1, rfl⟩

/-! ## Who was waiting for whom -/

/-- The node `source` was asked for while `reader` was the innermost node that was running. -/
def CalledBy (q : Progress σ) (reader source : String) : Prop :=
  ∃ visit ∈ q.trail, visit.id = source ∧ visit.path.head? = some reader

/-- Who was waiting was waiting. -/
lemma CalledBy.mono (h : CalledBy p reader source) (hq : Extends p q) :
    CalledBy q reader source := by
  obtain ⟨visit, hv, hwaits⟩ := h
  exact ⟨visit, hq.trail hv, hwaits⟩

/-- A request notes who makes it. -/
lemma Runs.noted {id : String} (h : Runs setting path (.value id) p r) :
    ∃ answer, ⟨id, path, answer⟩ ∈ r.2.trail := by
  have hlast (answer : Answer) : ⟨id, path, answer⟩ ∈ (note id path answer p).trail :=
    List.mem_append_right _ List.mem_cons_self
  cases h with
  | overridden | recalled | cut | absent => exact ⟨_, hlast _⟩
  | entered _ _ _ _ h | failed _ _ _ _ h => exact ⟨_, h.extends.trail (hlast .entered)⟩

/-- What a job reads is asked for by the node that reads it. -/
lemma Runs.calledBy (h : Runs setting path job p r)
    (hj : ∀ node program, job = .rest node program → path.head? = some node.id)
    (hp : ∀ reader source, ReadBy setting p reader source → CalledBy p reader source) :
    ∀ reader source, ReadBy setting r.2 reader source → CalledBy r.2 reader source := by
  have hlater {p q : Progress σ} (hq : Extends p q) (hsame : q.exchanges = p.exchanges)
      (hp : ∀ reader source, ReadBy setting p reader source → CalledBy p reader source) :
      ∀ reader source, ReadBy setting q reader source → CalledBy q reader source := by
    rintro reader source ⟨socket, s, hs, hsource⟩
    exact (hp reader source ⟨socket, s, hsame ▸ hs, hsource⟩).mono hq
  induction h with
  | overridden | recalled | cut | absent => exact hlater (extends_note _ _ _ _) rfl hp
  | entered _ _ _ hn _ ih | failed _ _ _ hn _ ih =>
    refine ih ?_ (hlater (extends_note _ _ _ _) rfl hp)
    rintro _ _ ⟨⟩
    rw [Graph.id_of_node? hn, List.head?_cons]
  | done | fail => exact hp
  | @wired path node socket next p source s q r hs hv _ ihv ih =>
    have hhead := hj _ _ rfl
    refine ih (by rintro _ _ ⟨⟩; exact hhead) ?_
    rintro reader source' ⟨socket', s', hs', hsource⟩
    rcases List.mem_append.1 hs' with hs' | hs'
    · exact (ihv nofun hp reader source' ⟨socket', s', hs', hsource⟩).mono (extends_record _ _)
    · cases List.mem_singleton.1 hs'
      cases hs.symm.trans hsource
      obtain ⟨answer, hvisit⟩ := hv.noted
      exact ⟨_, hvisit, rfl, hhead⟩
  | broken _ _ ihv => exact ihv nofun hp
  | @met path node request next p a q r hl hm _ ih =>
    have hhead := hj _ _ rfl
    have hmet := hlater (extends_of_meet hl hm) (meet_keeps hl hm).2.2 hp
    refine ih (by rintro _ _ ⟨⟩; exact hhead) ?_
    rintro reader source ⟨socket, s, hs, hsource⟩
    rcases List.mem_append.1 hs with hs | hs
    · exact (hmet reader source ⟨socket, s, hs, hsource⟩).mono (extends_record _ _)
    · cases List.mem_singleton.1 hs
      exact absurd hsource hl.not_wired
  | refused hl hm => exact hlater (extends_of_meet hl hm) (meet_keeps hl hm).2.2 hp

/-! ## Rows of requests -/

/-- A request that succeeds, and then a row of requests. -/
lemma Asked.next {id : String} {s : Signal} (hs : (signal setting id p).1 = .ok s)
    (h : Asked setting ids (signal setting id p).2 q) : Asked setting (id :: ids) p q :=
  .cons (Prod.ext hs rfl) h

/-- A row of requests that succeed leads on from what was reached. -/
lemma Asked.reached (h : Asked setting ids p q) (hp : Reached setting p) : Reached setting q := by
  induction h with
  | nil => exact hp
  | @cons id _ p s q _ hs _ ih =>
    have hnext := hp.signal id
    rw [hs] at hnext
    exact ih hnext

/-- A row of requests that succeed remembers what it asks for. -/
lemma Asked.covered (h : Asked setting ids p q) (hp : Covered setting [] p) :
    Covered setting [] q := by
  induction h with
  | nil => exact hp
  | cons hs _ ih => exact ih ((runs_of_signal hs).covered rfl hp)

/-- All nodes of a row of requests are asked for. -/
lemma Asked.noted (h : Asked setting ids p q) : ∀ id ∈ ids, ∃ visit ∈ q.trail, visit.id = id := by
  induction h with
  | nil => exact nofun
  | @cons id ids p s q r hs h ih =>
    obtain ⟨answer, hvisit⟩ := (runs_of_signal hs).noted
    exact List.forall_mem_cons.2 ⟨⟨_, h.extends.trail hvisit, rfl⟩, ih⟩

section Start

variable {triggers : Fields} {drawn : Nat} {outlet : σ}

/-- **Programs wait for what they read**, and for nothing else. -/
lemma Asked.calledBy_iff (h : Asked setting ids (.start triggers drawn outlet) q) :
    CalledBy q reader source ↔ ReadBy setting q reader source := by
  constructor
  · rintro ⟨visit, hv, rfl, hwaits⟩
    rcases h.readBy visit hv with hv | ⟨-, hpath⟩ | ⟨reader', hwaits', hread⟩
    · cases hv
    · simp [hpath] at hwaits
    · cases hwaits'.symm.trans hwaits
      exact hread
  · have hcalled : ∀ reader source, ReadBy setting q reader source → CalledBy q reader source := by
      refine (h.reached (.start triggers drawn outlet)).induct
        (P := fun p => ∀ reader source, ReadBy setting p reader source → CalledBy p reader source)
        ?_ fun _ _ _ hr => hr.calledBy nofun
      rintro _ _ _ _ _ ⟨_, _, hs, _⟩
      cases hs
    exact hcalled reader source

/-- A node was asked for from outside or by a program that was waiting for it. -/
lemma Asked.noted_iff {id : String} (h : Asked setting ids (.start triggers drawn outlet) q) :
    (∃ visit ∈ q.trail, visit.id = id) ↔ id ∈ ids ∨ ∃ reader, CalledBy q reader id := by
  constructor
  · rintro ⟨visit, hv, rfl⟩
    rcases h.readBy visit hv with hv' | ⟨hid, -⟩ | ⟨reader, hwaits, -⟩
    · cases hv'
    · exact .inl hid
    · exact .inr ⟨reader, visit, hv, rfl, hwaits⟩
  · rintro (hid | ⟨reader, visit, hv, rfl, -⟩)
    · exact h.noted id hid
    · exact ⟨visit, hv, rfl⟩

/-- The memory of an evaluation as an order of what was asked for: the nodes `ids` from outside, and
others by programs. -/
structure Postorder (setting : Setting σ) (ids : List String) (q : Progress σ) : Prop where
  /-- No node is remembered twice. -/
  nodup : (q.memo.map Prod.fst).Nodup
  /-- What is remembered was asked for, exists and is not overridden, and that is all. -/
  remembered : ∀ id, id ∈ q.memo.map Prod.fst ↔
    (id ∈ ids ∨ ∃ reader, CalledBy q reader id) ∧ (setting.graph.node? id).isSome ∧
      Fields.get? setting.overrides id = none
  /-- Programs ask for what feeds the sockets that they read. -/
  called : ∀ reader source, CalledBy q reader source ↔ ReadBy setting q reader source
  /-- A node comes after all that its program has asked for. -/
  sorted : ∀ reader source, CalledBy q reader source → (setting.graph.node? source).isSome →
    Fields.get? setting.overrides source = none →
    ∃ before after, q.memo.map Prod.fst = before ++ reader :: after ∧ source ∈ before

/-- What a program reads of a node that can run was remembered before it. -/
lemma Recounted.sorted (h : Recounted setting [] q)
    (hcut : ∀ visit ∈ q.trail, visit.answer ≠ .cut) (hread : ReadBy setting q reader source)
    (hn : (setting.graph.node? source).isSome)
    (ho : Fields.get? setting.overrides source = none) :
    ∃ before after, q.memo.map Prod.fst = before ++ reader :: after ∧ source ∈ before := by
  obtain ⟨socket, s, hs, hsource⟩ := hread
  obtain ⟨t, ht⟩ : ∃ t, (reader, t) ∈ q.memo := by
    by_contra hfresh
    have hsilent := h.silent reader List.not_mem_nil fun t ht => hfresh ⟨t, ht⟩
    have hown : ⟨reader, .read socket, s⟩ ∈ own reader q.exchanges :=
      List.mem_filter.2 ⟨hs, by simp⟩
    rw [hsilent] at hown
    cases hown
  obtain ⟨l₁, l₂, hsplit⟩ := List.append_of_mem ht
  cases h.reads reader socket s source hs hsource with
  | overridden hv => simp [ho] at hv
  | absent hnone => simp [hnone] at hn
  | cut hvisit =>
    obtain ⟨path, hvisit⟩ := hvisit
    exact absurd rfl (hcut _ hvisit)
  | remembered hm hearlier =>
    exact ⟨l₁.map Prod.fst, l₂.map Prod.fst, by rw [hsplit]; simp,
      List.mem_map_of_mem (hearlier l₁ l₂ t hsplit)⟩

/-- **What is remembered is a topological order of what was asked for.** Let no cycle be reported of
a graph, and let any nodes be asked for one after the other, with success, whatever is overridden.
Then the memory lists, without repetition, the nodes that were asked for from outside or by a
program and that exist and are not overridden, each of them after those of them that its program
has asked for. -/
theorem memory_postorder (hc : ∀ issue ∈ setting.graph.issues, issue.code ≠ "cycle")
    (h : Asked setting ids (.start triggers drawn outlet) q) : Postorder setting ids q := by
  have hreached : Reached setting q := h.reached (.start triggers drawn outlet)
  have hrecounted : Recounted setting [] q :=
    h.recounted (recounted_start setting triggers drawn outlet)
  refine ⟨hreached.nodup_memo, fun id => ?_, fun _ _ => h.calledBy_iff, ?_⟩
  · rw [← h.noted_iff]
    constructor
    · intro hid
      obtain ⟨⟨_, s⟩, hs, rfl⟩ := List.mem_map.1 hid
      obtain ⟨ho, node, -, -, -, hn, -⟩ := hrecounted.results _ s hs
      exact ⟨hreached.traced _ hid, hn ▸ rfl, ho⟩
    · rintro ⟨⟨visit, hv, rfl⟩, hn, ho⟩
      have hcovered : Covered setting [] q := h.covered nofun
      exact (hcovered visit hv hn ho).resolve_left List.not_mem_nil
  · intro reader source hcalled hn ho
    exact hrecounted.sorted (hreached.not_cut hc) (h.calledBy_iff.1 hcalled) hn ho

/-- A sum of two sums that read one number. One of them reads a tint as well, which reads more nodes,
and the other a missing node. -/
def diamond : Graph where
  nodes := [⟨"top", "ADD", []⟩, ⟨"left", "ADD", []⟩, ⟨"right", "ADD", []⟩,
    ⟨"base", "TEXT", [("value", .int 2)]⟩, ⟨"tint", "ADD", []⟩, ⟨"idle", "ADD", []⟩]
  connections := [⟨"left", "top", "in-a"⟩, ⟨"right", "top", "in-b"⟩, ⟨"base", "left", "in-a"⟩,
    ⟨"tint", "left", "in-b"⟩, ⟨"base", "tint", "in-a"⟩, ⟨"base", "right", "in-a"⟩,
    ⟨"nowhere", "right", "in-b"⟩, ⟨"idle", "tint", "in-b"⟩]
  id := .null
  name := .null

/-- The diamond with its tint overridden, so that nobody asks for what only the tint reads. -/
def tinted : Setting Unit :=
  { Setting.alone diamond with overrides := [("tint", .int 40)] }

/-- The right side is asked for first and so remembered before the left one. -/
theorem diamond_postorder :
    (∀ issue ∈ tinted.graph.issues, issue.code ≠ "cycle") ∧
    ∃ q, Asked tinted ["right", "top"] (.start [] 0 ()) q ∧
      Postorder tinted ["right", "top"] q ∧
      q.memo.map Prod.fst = ["base", "right", "left", "top"] := by
  have hc : ∀ issue ∈ tinted.graph.issues, issue.code ≠ "cycle" := by decide
  have hright : (signal tinted "right" (.start [] 0 ())).1 = .ok ⟨.float 2, "right"⟩ := by
    decide +kernel
  have htop : (signal tinted "top" (signal tinted "right" (.start [] 0 ())).2).1 =
      .ok ⟨.float 44, "top"⟩ := by
    decide +kernel
  have hasked : Asked tinted ["right", "top"] (.start [] 0 ())
      (signal tinted "top" (signal tinted "right" (.start [] 0 ())).2).2 :=
    .next hright (.next htop .nil)
  exact ⟨hc, _, hasked, memory_postorder hc hasked, by decide +kernel⟩

end Start

end Evaluation

end DesignGraph
