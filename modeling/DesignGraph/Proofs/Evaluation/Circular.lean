import DesignGraph.Proofs.Evaluation.Footprint
import DesignGraph.Proofs.Evaluation.Memory
/-!
# Nodes on cycles

A node that is asked for while its program is running gives null to whoever asks. That does not
make the node itself null: its program goes on with the null that it has read in the end, and most
programs make something of it. So of the nodes on a cycle only those evaluate to null whose kind
gives null anyway, and those that choose and were handed null. The latter is sure where the choices
themselves run in a circle, since what is handed on can come from nowhere then.

## Main definitions

* `DesignGraph.Graph.ReadBy` — a connection that takes effect.
* `DesignGraph.Evaluation.OnCycle` — a node lies on a cycle of such connections.
* `DesignGraph.Evaluation.Chose`, `DesignGraph.Evaluation.HandsOn` — what a choosing node hands on.

## Main results

* `DesignGraph.Operation.ofKind_fills` — what is neither null by its kind nor a choice is never
  null.
* `DesignGraph.Evaluation.Recounted.chose_iff` — a choosing node hands on what it chose.
* `DesignGraph.Evaluation.signal_on_cycle` — which nodes on cycles evaluate to null.
-/

set_option relaxedAutoImplicit false
set_option autoImplicit false

namespace DesignGraph

open Relation

/-! ## Kinds that never give null -/

namespace Operation

open Program

/-- A program that makes a value other than null. -/
def Fills (program : Program Value) : Prop :=
  program.Within (fun _ => True) (· ≠ .null)

lemma fills_timer : Fills timer := by
  simp only [Fills, timer, operand, within_bind, within_value, within_ofExcept]
  refine ⟨trivial, fun time => ⟨trivial, fun s speed _ => ?_⟩⟩
  cases time <;> simp

lemma fills_divideBy (f : Float → Float → Float) : Fills (divideBy f) := by
  simp only [Fills, divideBy, within_bind]
  refine (within_divisor trivial fun _ => trivial).mono (fun _ h => h) fun d _ => ?_
  simp [operand]

lemma fills_animation (literal : Value) : Fills (animation literal) := by
  simp only [Fills, animation, within_bind]
  refine ⟨trivial, fun wired => ?_⟩
  cases wired <;> simp [flag, operand]

/-- **A kind that reads sockets never gives null**, unless it acts, is displayed, or hands on what
it chooses. -/
theorem ofKind_fills {kind : Kind} (node : Node) (hsockets : kind.sockets ≠ [])
    (hact : kind.isAction = false) (hout : kind ≠ .output) (hif : kind ≠ .ifElse) :
    (ofKind kind node).Within (fun _ => True) fun o => ∃ v, o = .made v ∧ v ≠ .null := by
  have hmaking {program : Program Value} (h : Fills program) :
      (making program).Within (fun _ => True) fun o => ∃ v, o = .made v ∧ v ≠ .null := by
    rw [making, within_bind]
    exact h.mono (fun _ h => h) fun v hv => ⟨v, rfl, hv⟩
  cases kind with
  | text | color | number | toggle | random | hover | click => exact absurd rfl hsockets
  | navigate | link | alert => cases hact
  | output => exact absurd rfl hout
  | ifElse => exact absurd rfl hif
  | timer => exact hmaking fills_timer
  | divide | modulo => exact hmaking (fills_divideBy _)
  | animation => exact hmaking (fills_animation _)
  | _ =>
    refine hmaking ?_
    simp [Fills, unary, binary, compare, equality, operand, plainNumber, flag, words, style,
      transition, merge, mergeStyles]

end Operation

/-- The program of an output gives null and reads nothing. -/
lemma Node.program_of_output {node : Node} (hkind : node.kind? = some .output) :
    node.program = .done (.made .null) := by
  simp only [Node.program, hkind]
  rfl

/-- The node `source` feeds a socket that the kind of the node `target` reads, and both exist. -/
def Graph.ReadBy (graph : Graph) (source target : String) : Prop :=
  (graph.node? source).isSome ∧ ∃ node kind socket, graph.node? target = some node ∧
    node.kind? = some kind ∧ socket ∈ kind.sockets ∧ graph.source? target socket = some source

namespace Evaluation

variable {σ : Type}

/-- A node lies on a cycle of connections that take effect, and no node of the cycle is
overridden. -/
def OnCycle (setting : Setting σ) (id : String) : Prop :=
  TransGen (fun source target => setting.graph.ReadBy source target ∧
    Fields.get? setting.overrides source = none ∧ Fields.get? setting.overrides target = none) id id

/-! ## Choices -/

/-- A choosing node has read the signal `s` on the socket that it chose. -/
def Chose (p : Progress σ) (id : String) (s : Signal) : Prop :=
  ∃ socket, socket ≠ "in-condition" ∧ ⟨id, .read socket, s⟩ ∈ p.exchanges

/-- The node `reader` chooses, and has chosen a socket that the node `source` feeds, which is not
overridden. -/
def HandsOn (setting : Setting σ) (p : Progress σ) (reader source : String) : Prop :=
  (setting.graph.node? reader).bind Node.kind? = some .ifElse ∧
    Fields.get? setting.overrides source = none ∧
    ∃ socket s, socket ≠ "in-condition" ∧ ⟨reader, .read socket, s⟩ ∈ p.exchanges ∧
      setting.graph.source? reader socket = some source

section Dialogues

variable {α : Type} {id : String} {last final : Option Value} {exchanges : List Exchange}

/-- The result of a dialogue is within the bounds of its program. -/
lemma Dialogue.result {program : Program α} {a : α} {P : Request → Prop} {Q : α → Prop}
    (hprogram : program.Within P Q) (h : Dialogue id program last exchanges final a) : Q a := by
  induction h with
  | done => exact hprogram
  | ask _ _ ih => exact ih (hprogram.2 _)

/-- A choosing node reads its condition, then the socket that it chooses, and hands on what it gets
there. -/
lemma Dialogue.of_choice {node : Node} {o : Outcome} (hkind : node.kind? = some .ifElse)
    (h : Dialogue id node.program last exchanges final o) :
    ∃ (c : Signal) (socket : String) (s : Signal),
      exchanges = [⟨id, .read "in-condition", c⟩, ⟨id, .read socket, s⟩] ∧
      socket ≠ "in-condition" ∧ o = .passed s := by
  simp only [Node.program, hkind] at h
  obtain ⟨_, _, s, _, hchoose, hend, rfl⟩ := dialogue_bind.1 h
  obtain ⟨rfl, rfl, rfl⟩ := dialogue_pure.1 hend
  obtain ⟨_, _, b, _, hflag, hread, rfl⟩ := dialogue_bind.1 hchoose
  obtain ⟨c, rfl, -⟩ := hflag.of_flag
  cases b with
  | true =>
    obtain ⟨rfl, -⟩ := dialogue_request.1 hread
    exact ⟨c, "in-true", s, rfl, by decide, rfl⟩
  | false =>
    obtain ⟨rfl, -⟩ := dialogue_request.1 hread
    exact ⟨c, "in-false", s, rfl, by decide, rfl⟩

end Dialogues

section Choices

variable {setting : Setting σ} {path : List String} {p : Progress σ} {id source : String}
  {s t : Signal} {node : Node}

/-- **A choosing node hands on what it chose.** -/
lemma Recounted.chose_iff (h : Recounted setting path p)
    (hkind : (setting.graph.node? id).bind Node.kind? = some .ifElse) (hs : (id, s) ∈ p.memo) :
    Chose p id t ↔ t = s := by
  obtain ⟨-, node, last, final, o, hn, rfl, hd⟩ := h.results id s hs
  rw [hn, Option.bind_some] at hkind
  obtain ⟨c, socket, s, hown, hsocket, rfl⟩ := hd.of_choice hkind
  have hmem {request : Request} {a : request.Answer} :
      ⟨id, request, a⟩ ∈ p.exchanges ↔ (⟨id, request, a⟩ : Exchange) ∈ own id p.exchanges := by
    simp [own]
  constructor
  · rintro ⟨socket', hsocket', hread⟩
    rw [hmem, hown] at hread
    rcases List.mem_cons.1 hread with hread | hread
    · cases hread
      exact absurd rfl hsocket'
    · cases List.mem_singleton.1 hread
      rfl
  · rintro rfl
    exact ⟨socket, hsocket, hmem.2 (by simp [hown])⟩

/-- A choosing node that is not null was fed by the node whose signal it handed on. -/
lemma Recounted.fed_of_handsOn (h : Recounted setting path p) (hs : (id, s) ∈ p.memo)
    (hnull : s.value ≠ .null) (hon : HandsOn setting p id source) :
    Fed setting p id source ∧ (source, s) ∈ p.memo := by
  obtain ⟨hkind, ho, socket, t, hsocket, hread, hsource⟩ := hon
  obtain rfl := (h.chose_iff hkind hs).1 ⟨socket, hsocket, hread⟩
  refine ⟨⟨ho, socket, t, hnull, hread, hsource⟩, ?_⟩
  cases h.reads id socket t source hread hsource with
  | overridden hv => simp [ho] at hv
  | absent _ ht | cut _ ht => exact absurd ht hnull
  | remembered hm => exact hm

/-- **What is handed on in a circle is null.**

**Proof sketch.** Else the same signal would be remembered of every node of the circle, and each of
them would be fed by the next one. -/
lemma Recounted.null_of_handsOn_self (h : Recounted setting path p) (hs : (id, s) ∈ p.memo)
    (hcircle : TransGen (HandsOn setting p) id id) : s.value = .null := by
  by_contra hnull
  have hfed {other : String} (hon : TransGen (HandsOn setting p) id other) :
      TransGen (Fed setting p) id other ∧ (other, s) ∈ p.memo := by
    induction hon with
    | single hon =>
      obtain ⟨hfed, hmem⟩ := h.fed_of_handsOn hs hnull hon
      exact ⟨.single hfed, hmem⟩
    | tail _ hon ih =>
      obtain ⟨hfed, hmem⟩ := h.fed_of_handsOn ih.2 hnull hon
      exact ⟨ih.1.tail hfed, hmem⟩
  exact h.not_fed_self id (hfed hcircle).1

/-- What is remembered of a node that reads sockets is null exactly if its kind gives null or it
was handed null. -/
lemma Recounted.null_iff (h : Recounted setting path p) (hs : (id, s) ∈ p.memo) {kind : Kind}
    (hn : setting.graph.node? id = some node) (hkind : node.kind? = some kind)
    (hsockets : kind.sockets ≠ []) :
    s.value = .null ↔ kind.isAction = true ∨ kind = .output ∨
      kind = .ifElse ∧ ∃ t, Chose p id t ∧ t.value = .null := by
  obtain ⟨-, node', last, final, o, hn', ho, hd⟩ := h.results id s hs
  cases hn'.symm.trans hn
  by_cases hif : kind = .ifElse
  · subst hif
    have hchose {t : Signal} : Chose p id t ↔ t = s :=
      h.chose_iff (by rw [hn, Option.bind_some, hkind]) hs
    simp [hchose, Kind.isAction, Kind.category]
  by_cases hact : kind.isAction = true
  · have hacts : node.isAction = true := by simp [Node.isAction, hkind, hact]
    obtain rfl : o = .made .null := hd.result node.program_within hacts
    simp [← ho, Outcome.signal, hact]
  by_cases hout : kind = .output
  · subst hout
    have hmade : node.program.Within (fun _ => True) (· = .made .null) := by
      rw [Node.program_of_output hkind, Program.within_done]
    obtain rfl := hd.result hmade
    simp [← ho, Outcome.signal]
  · have hfills := Operation.ofKind_fills node hsockets (by simpa using hact) hout hif
    simp only [Node.program, hkind] at hd
    obtain ⟨v, rfl, hv⟩ := hd.result hfills
    simp [← ho, Outcome.signal, hv, hif, hact, hout]

end Choices

/-! ## Cycles -/

section Cycles

variable {setting : Setting σ} {id : String}

/-- A node on a cycle exists, reads sockets and is not overridden. -/
lemma OnCycle.node (h : OnCycle setting id) : Fields.get? setting.overrides id = none ∧
    ∃ node kind, setting.graph.node? id = some node ∧ node.kind? = some kind ∧
      kind.sockets ≠ [] := by
  obtain ⟨source, -, ⟨-, node, kind, socket, hn, hkind, hsocket, -⟩, -, ho⟩ :=
    TransGen.tail'_iff.1 h
  exact ⟨ho, node, kind, hn, hkind, List.ne_nil_of_mem hsocket⟩

/-- A node that is asked for first of all, with success, is remembered. -/
lemma mem_memo_of_signal {triggers : Fields} {drawn : Nat} {outlet : σ} {s : Signal}
    {q : Progress σ} (h : signal setting id (.start triggers drawn outlet) = (.ok s, q))
    (ho : Fields.get? setting.overrides id = none) {node : Node}
    (hn : setting.graph.node? id = some node) : (id, s) ∈ q.memo := by
  cases runs_of_signal h with
  | overridden hv => cases ho.symm.trans hv
  | recalled _ hs => cases hs
  | cut _ _ hid => cases hid
  | absent _ _ _ hnone => cases hnone.symm.trans hn
  | entered => simp

/-- **Which nodes on cycles evaluate to null.** Let a node lie on a cycle of connections that take
effect, none of whose nodes is overridden, and let it be asked for in a fresh evaluation. An output
always gives null. If an answer is given, it is null exactly if the node acts, is an output, or is a
choice that was handed null. The latter is so in particular if choices that were made lead from the
node back to itself. And all the reads that were answered with something else than null form no
cycle: on every cycle some read was answered with null. -/
theorem signal_on_cycle (hcycle : OnCycle setting id) (triggers : Fields) (drawn : Nat)
    (outlet : σ) :
    ∃ node kind, setting.graph.node? id = some node ∧ node.kind? = some kind ∧
      (kind = .output →
        (signal setting id (.start triggers drawn outlet)).1 = .ok ⟨.null, id⟩) ∧
      ∀ s q, signal setting id (.start triggers drawn outlet) = (.ok s, q) →
        (s.value = .null ↔ kind.isAction = true ∨ kind = .output ∨
          kind = .ifElse ∧ ∃ t, Chose q id t ∧ t.value = .null) ∧
        (TransGen (HandsOn setting q) id id → s.value = .null) ∧
        ∀ other, ¬TransGen (Fed setting q) other other := by
  obtain ⟨ho, node, kind, hn, hkind, hsockets⟩ := hcycle.node
  refine ⟨node, kind, hn, hkind, ?_, fun s q h => ?_⟩
  · rintro rfl
    have hbody : Runs setting [id] (.rest node node.program)
        (note id [] .entered (.start triggers drawn outlet))
        (.ok ⟨.null, node.id⟩, note id [] .entered (.start triggers drawn outlet)) := by
      rw [Node.program_of_output hkind]
      exact .done
    have hrun := Runs.entered ho rfl List.not_mem_nil hn hbody
    rw [hrun.unique (signal_runs setting id _), Graph.id_of_node? hn]
  · have hs := mem_memo_of_signal h ho hn
    have hq : Recounted setting [] q :=
      (runs_of_signal h).recounted rfl nofun (recounted_start setting triggers drawn outlet)
    exact ⟨hq.null_iff hs hn hkind hsockets, hq.null_of_handsOn_self hs, hq.not_fed_self⟩

/-- Two choices, each of which falls back on the other one. -/
def standoff : Graph :=
  ⟨[⟨"p", "IF_ELSE", []⟩, ⟨"q", "IF_ELSE", []⟩],
    [⟨"q", "p", "in-false"⟩, ⟨"p", "q", "in-false"⟩], .null, .null⟩

/-- Choices that fall back on each other come to null. -/
theorem standoff_null :
    OnCycle (.alone standoff) "p" ∧
      ∃ s, (signal (.alone standoff) "p" (.start [] 0 ())).1 = .ok s ∧ s.value = .null := by
  have hp : standoff.ReadBy "p" "q" := ⟨by decide, _, .ifElse, "in-false", rfl, by decide⟩
  have hq : standoff.ReadBy "q" "p" := ⟨by decide, _, .ifElse, "in-false", rfl, by decide⟩
  have hcycle : OnCycle (.alone standoff) "p" := .tail (.single ⟨hp, rfl, rfl⟩) ⟨hq, rfl, rfl⟩
  have hanswer : (signal (.alone standoff) "p" (.start [] 0 ())).1 = .ok ⟨.null, "p"⟩ := by decide
  have hreads : (signal (.alone standoff) "p" (.start [] 0 ())).2.exchanges =
      [⟨"p", .read "in-condition", ⟨.null, "p"⟩⟩, ⟨"q", .read "in-condition", ⟨.null, "q"⟩⟩,
        ⟨"q", .read "in-false", ⟨.null, "p"⟩⟩, ⟨"p", .read "in-false", ⟨.null, "p"⟩⟩] := rfl
  have hcircle : TransGen (HandsOn (.alone standoff)
      (signal (.alone standoff) "p" (.start [] 0 ())).2) "p" "p" :=
    .tail (.single ⟨by decide, rfl, "in-false", ⟨.null, "p"⟩, by decide, by simp [hreads], rfl⟩)
      ⟨by decide, rfl, "in-false", ⟨.null, "p"⟩, by decide, by simp [hreads], rfl⟩
  obtain ⟨node, kind, -, -, -, hnull⟩ := signal_on_cycle hcycle [] 0 ()
  exact ⟨hcycle, _, hanswer, (hnull _ _ (Prod.ext hanswer rfl)).2.1 hcircle⟩

/-- A sum that is its own first operand. -/
def selfSum : Graph :=
  ⟨[⟨"sum", "ADD", []⟩], [⟨"sum", "sum", "in-a"⟩], .null, .null⟩

/-- A sum that is its own first operand lies on a cycle and is zero, not null. -/
theorem self_sum_not_null :
    OnCycle (.alone selfSum) "sum" ∧
      (signal (.alone selfSum) "sum" (.start [] 0 ())).1 = .ok ⟨.float 0, "sum"⟩ ∧
      (.float 0 : Value) ≠ .null :=
  ⟨.single ⟨⟨by decide, _, .add, "in-a", rfl, by decide⟩, rfl, rfl⟩, by decide +kernel, nofun⟩

end Cycles

end Evaluation

end DesignGraph
