import DesignGraph.Proofs.Evaluation.Display
import DesignGraph.Proofs.Evaluation.Footprint
/-!
# Evaluating again

An evaluation records every trigger that it looks at. If it is repeated and finds, for each of them,
the very value that it looks at again, then no trigger rises, so nothing is fired; and what is
recorded was there already. So the repeated evaluation comes to the same appearance and leaves no
trace. This holds of every graph without random nodes, cyclic ones included, and although the first
evaluation may have fired: what an action fires has no bearing on the signals.

## Main definitions

* `DesignGraph.Program.FiresOnRise` — a program that fires only once its trigger rises.
* `DesignGraph.Evaluation.FindsLooks` — triggers are remembered as they were looked at.
* `DesignGraph.Evaluation.NoTrace` — triggers, samples and outlet are as they were.

## Main results

* `DesignGraph.Node.program_firesOnRise` — the program of every node fires only on a rise.
* `DesignGraph.Evaluation.Runs.repeats` — what came of a job comes of it again, without a trace.
* `DesignGraph.Evaluation.run_repeats` — a whole evaluation that is repeated leaves no trace.
-/

set_option relaxedAutoImplicit false
set_option autoImplicit false

namespace DesignGraph

/-! ## Firing on a rise -/

namespace Program

variable {α β : Type}

/-- A request that neither looks at the trigger nor fires. -/
def Inert (request : Request) : Prop :=
  Blind request ∧ ¬Fires request

/-- A program that fires only after a look at its trigger; if the trigger does not rise, then the
program ends with the given result. -/
inductive FiresOnRise (result : α) : Program α → Prop
  | done {a} : FiresOnRise result (.done a)
  | fail {fault} : FiresOnRise result (.fail fault)
  | look {trigger next} (hend : next false = .done result) :
    FiresOnRise result (.ask (.edge trigger) next)
  | ask {request next} (hinert : Inert request) (h : ∀ answer, FiresOnRise result (next answer)) :
    FiresOnRise result (.ask request next)

/-- An inert program may be followed by one that fires on a rise. -/
lemma Within.firesOnRise_bind {program : Program α} {f : α → Program β} {result : β}
    (h : program.Within Inert fun _ => True) (hf : ∀ a, (f a).FiresOnRise result) :
    (program >>= f).FiresOnRise result := by
  change (program.bind f).FiresOnRise result
  induction program with
  | done a => exact hf a
  | fail fault => exact .fail
  | ask request next ih => exact .ask h.1 fun answer => ih answer (h.2 answer)

/-- An inert program fires on no rise at all. -/
lemma Within.firesOnRise {P : α → Prop} {program : Program α} (h : program.Within Inert P)
    (result : α) : program.FiresOnRise result := by
  induction program with
  | done a => exact .done
  | fail fault => exact .fail
  | ask request next ih => exact .ask h.1 fun answer => ih answer (h.2 answer)

/-- A result may be changed afterwards. -/
lemma FiresOnRise.bind_pure {program : Program α} {result : α}
    (h : program.FiresOnRise result) (f : α → β) :
    (program >>= fun a => pure (f a)).FiresOnRise (f result) := by
  change (program.bind fun a => .done (f a)).FiresOnRise (f result)
  induction h with
  | done => exact .done
  | fail => exact .fail
  | look hend =>
    refine .look ?_
    rw [hend]
    rfl
  | ask hinert _ ih => exact .ask hinert ih

end Program

namespace Node

open Program Operation

/-- **The program of every node fires only on a rise**, and it comes to null without one. -/
theorem program_firesOnRise (node : Node) : node.program.FiresOnRise (.made .null) := by
  unfold program
  rcases hk : node.kind? with _ | kind
  · exact .done
  by_cases hact : kind.isAction = true
  · cases kind with
    | navigate =>
      refine FiresOnRise.bind_pure (Within.firesOnRise_bind ?_ fun _ => ?_) Outcome.made
      · simp [Inert, Blind, Fires]
      exact .look rfl
    | link =>
      refine FiresOnRise.bind_pure (Within.firesOnRise_bind ?_ fun _ => ?_) Outcome.made
      · simp [Inert, Blind, Fires]
      refine Within.firesOnRise_bind ?_ fun _ => Within.firesOnRise_bind ?_ fun _ => ?_
      · simp [Inert, Blind, Fires]
      · simp
      refine Within.firesOnRise_bind ?_ fun _ => ?_
      · simp [Inert, Blind, Fires]
      exact .look rfl
    | alert =>
      refine FiresOnRise.bind_pure (Within.firesOnRise_bind ?_ fun _ => ?_) Outcome.made
      · simp [Inert, Blind, Fires]
      refine Within.firesOnRise_bind ?_ fun _ => Within.firesOnRise_bind ?_ fun _ => ?_
      · simp [Inert, Blind, Fires]
      · simp
      exact .look rfl
    | _ => cases hact
  · refine ((ofKind_within kind node).mono (fun request hask => ⟨?_, ?_⟩) fun _ h => h).firesOnRise _
    · rintro v rfl
      exact hact hask
    · rintro ⟨action, rfl⟩
      exact hact hask

end Node

namespace Evaluation

variable {σ : Type} {setting : Setting σ} {path : List String} {p p' q q' : Progress σ}

/-! ## Jobs -/

/-- What an evaluation is about to do fires only on a rise. -/
def Job.FiresOnRise : Job → Prop
  | .value _ => True
  | .rest _ program => program.FiresOnRise (.made .null)

/-- Triggers are remembered as they were looked at in the given exchanges. -/
def FindsLooks (triggers : Fields) (exchanges : List Exchange) : Prop :=
  ∀ exchange ∈ exchanges, ∀ v, exchange.request = .edge v →
    Fields.get? triggers exchange.node = some v

lemma FindsLooks.mono {triggers : Fields} {exchanges more : List Exchange}
    (h : FindsLooks triggers more) (hsub : exchanges ⊆ more) : FindsLooks triggers exchanges :=
  fun exchange he => h exchange (hsub he)

/-- Nothing that outlasts an evaluation has changed: triggers, samples and outlet are as they
were. -/
structure NoTrace (p q : Progress σ) : Prop where
  triggers : q.triggers = p.triggers
  drawn : q.drawn = p.drawn
  outlet : q.outlet = p.outlet

lemma NoTrace.refl (p : Progress σ) : NoTrace p p :=
  ⟨rfl, rfl, rfl⟩

lemma NoTrace.trans {r : Progress σ} (h : NoTrace p q) (h' : NoTrace q r) : NoTrace p r :=
  ⟨h'.triggers.trans h.triggers, h'.drawn.trans h.drawn, h'.outlet.trans h.outlet⟩

/-- An inert request that is no sample changes nothing, and is answered alike whatever went
before. -/
lemma meet_inert {node : Node} {request : Request} {a : request.Answer}
    (hl : IsLocal setting.graph node request) (hinert : Program.Inert request)
    (hsample : request ≠ .sample) (hm : ∀ read, meet setting node read request p = (.ok a, q))
    (p' : Progress σ) : q = p ∧ ∀ read, meet setting node read request p' = (.ok a, p') := by
  obtain rfl := eq_effect_of_meet hl hm
  -- no node is read, so any way of reading nodes will do
  have hanswer := congrArg Prod.fst (hm fun id p => (.ok ⟨.null, id⟩, p))
  cases request with
  | read socket =>
    simp only [meet, hl socket rfl] at hanswer
    refine ⟨rfl, fun read => ?_⟩
    simp only [meet, hl socket rfl]
    rw [hanswer]
  | isWired | hovered | clicked | time =>
    exact ⟨rfl, fun read => Prod.ext hanswer rfl⟩
  | sample => exact absurd rfl hsample
  | edge v => exact absurd rfl (hinert.1 v)
  | fire action => exact absurd ⟨action, rfl⟩ hinert.2

/-- A look at a trigger that is remembered as it is sees no rise and changes nothing. -/
lemma meet_edge_of_remembered {node : Node} {v : Value}
    (h : Fields.get? p.triggers node.id = some v) (read : String → Step σ Signal) :
    meet setting node read (.edge v) p = (.ok false, p) := by
  have hstays : Trigger.rises (some v) v = false := by
    cases hrises : Trigger.rises (some v) v with
    | true =>
      obtain ⟨htrue, hnot⟩ := rises_iff.1 hrises
      exact absurd (congrArg some htrue) hnot
    | false => rfl
  rw [meet, Trigger.step, h, hstays, Fields.put_of_get? h]

/-- **What came of a job comes of it again, without a trace**, from any progress that remembers the
same signals and has triggers remembered as they are looked at.

**Proof sketch.** Induction on the first course. Up to a look at its trigger a program makes inert
requests, which are answered alike. The look sees no rise, so the program ends there with null; and
null is what the first course came to as well, since after a look a program at most fires. -/
theorem Runs.repeats {job : Job} {r : Except Fault Signal × Progress σ}
    (h : Runs setting path job p r) {s : Signal} (hr : r.1 = .ok s)
    (hsteady : setting.graph.IsSteady) (hf : Fits setting.graph job) (hlast : job.LooksLast)
    (hrise : job.FiresOnRise) (hmemo : p'.memo = p.memo)
    (hlooks : FindsLooks p'.triggers r.2.exchanges) :
    ∃ q', Runs setting path job p' (.ok s, q') ∧ q'.memo = r.2.memo ∧ NoTrace p' q' := by
  induction h generalizing p' s with
  | overridden hv =>
    cases hr
    exact ⟨_, .overridden hv, hmemo, rfl, rfl, rfl⟩
  | recalled ho hs =>
    cases hr
    exact ⟨_, .recalled ho (hmemo ▸ hs), hmemo, rfl, rfl, rfl⟩
  | cut ho hm hp =>
    cases hr
    exact ⟨_, .cut ho (hmemo ▸ hm) hp, hmemo, rfl, rfl, rfl⟩
  | absent ho hm hp hn =>
    cases hr
    exact ⟨_, .absent ho (hmemo ▸ hm) hp hn, hmemo, rfl, rfl, rfl⟩
  | @entered path id p node s q ho hm hp hn _ ih =>
    cases hr
    have hentered : (note id path .entered p').memo = (note id path .entered p).memo := hmemo
    obtain ⟨q', hq', hmemo', htrace⟩ := ih rfl (fits_program hn) (Node.program_looksLast _)
      (Node.program_firesOnRise _) hentered hlooks
    exact ⟨_, .entered ho (hmemo ▸ hm) hp hn hq', congrArg (· ++ _) hmemo', htrace.triggers,
      htrace.drawn, htrace.outlet⟩
  | failed | fail | broken | refused => cases hr
  | done =>
    cases hr
    exact ⟨p', .done, hmemo, .refl p'⟩
  | @wired path node socket next p source s' q r hs hv h ihv ih =>
    have hsub : q.exchanges ⊆ r.2.exchanges :=
      fun _ he => h.extends.exchanges (List.mem_append_left _ he)
    obtain ⟨q₁, hq₁, hmemo₁, htrace₁⟩ := ihv rfl trivial trivial trivial hmemo (hlooks.mono hsub)
    have hrest : (next s').FiresOnRise (.made .null) := by
      cases hrise with
      | ask _ h => exact h s'
    have hread : (record ⟨node.id, .read socket, s'⟩ q₁).memo =
        (record ⟨node.id, .read socket, s'⟩ q).memo := hmemo₁
    obtain ⟨q', hq', hmemo', htrace⟩ := ih hr (hf.next _) (hlast.2 _) hrest hread
      (by rwa [triggers_record, htrace₁.triggers])
    have htrace' : NoTrace q₁ q' := ⟨htrace.triggers, htrace.drawn, htrace.outlet⟩
    exact ⟨q', .wired hs hq₁ hq', hmemo', htrace₁.trans htrace'⟩
  | @met path node request next p a q r hl hm h ih =>
    cases hrise with
    | @look v next hend =>
      have hlook : Fields.get? p'.triggers node.id = some v :=
        hlooks ⟨node.id, .edge v, a⟩ (h.extends.exchanges (List.mem_append_right _
          List.mem_cons_self)) v rfl
      obtain ⟨rfl, hmemo', -⟩ := h.of_fires rfl (hlast.1 (fun hblind => hblind v rfl) a) hr
      have hdone : Runs setting path (.rest node (next false))
          (record ⟨node.id, .edge v, false⟩ p')
          (.ok ⟨.null, node.id⟩, record ⟨node.id, .edge v, false⟩ p') := by
        rw [hend]
        exact .done
      exact ⟨_, .met hl (meet_edge_of_remembered hlook) hdone,
        hmemo.trans ((meet_keeps hl hm).1.symm.trans hmemo'.symm), rfl, rfl, rfl⟩
    | ask hinert hnext =>
      obtain ⟨rfl, hm'⟩ := meet_inert hl hinert (hf.not_sample hsteady) hm p'
      have hanswered : (record ⟨node.id, request, a⟩ p').memo =
          (record ⟨node.id, request, a⟩ q).memo := hmemo
      obtain ⟨q', hq', hmemo', htrace⟩ :=
        ih hr (hf.next _) (hlast.2 _) (hnext a) hanswered hlooks
      exact ⟨q', .met hl hm' hq', hmemo', htrace.triggers, htrace.drawn, htrace.outlet⟩

/-! ## Whole evaluations -/

section Whole

/-- A request from outside is answered again as it was. -/
lemma signal_repeats {id : String} {s : Signal} (h : signal setting id p = (.ok s, q))
    (hsteady : setting.graph.IsSteady) (hmemo : p'.memo = p.memo)
    (hlooks : FindsLooks p'.triggers q.exchanges) :
    ∃ q', signal setting id p' = (.ok s, q') ∧ q'.memo = q.memo ∧ NoTrace p' q' := by
  obtain ⟨q', hq', hmemo', htrace⟩ :=
    (runs_of_signal h).repeats rfl hsteady trivial trivial trivial hmemo hlooks
  exact ⟨q', ((signal_runs setting id p').unique hq').symm, hmemo', htrace⟩

/-- An action pass that is repeated leaves no trace. -/
lemma visitAll_repeats {nodes : List Node} (h : visitAll setting nodes p = (.ok (), q))
    (hsteady : setting.graph.IsSteady) (hmemo : p'.memo = p.memo)
    (hlooks : FindsLooks p'.triggers q.exchanges) :
    ∃ q', visitAll setting nodes p' = (.ok (), q') ∧ q'.memo = q.memo ∧ NoTrace p' q' := by
  induction nodes generalizing p p' with
  | nil =>
    cases h
    exact ⟨p', rfl, hmemo, .refl p'⟩
  | cons node rest ih =>
    rw [visitAll] at h
    rcases hs : signal setting node.id p with ⟨fault | s, q₁⟩
    · rw [hs] at h
      cases h
    rw [hs] at h
    have hsub : q₁.exchanges ⊆ q.exchanges := (visitAll_asked h).extends.exchanges
    obtain ⟨q₁', hs', hmemo₁, htrace₁⟩ := signal_repeats hs hsteady hmemo (hlooks.mono hsub)
    obtain ⟨q', hrest, hmemo', htrace⟩ := ih h hmemo₁ (by rwa [htrace₁.triggers])
    refine ⟨q', ?_, hmemo', htrace₁.trans htrace⟩
    rw [visitAll, hs']
    exact hrest

/-- A socket of the output node is read again as it was. -/
lemma outputSocket_repeats {output : Node} {socket : String} {v : Option Value}
    (h : outputSocket setting output socket p = (.ok v, q)) (hsteady : setting.graph.IsSteady)
    (hmemo : p'.memo = p.memo) (hlooks : FindsLooks p'.triggers q.exchanges) :
    ∃ q', outputSocket setting output socket p' = (.ok v, q') ∧ q'.memo = q.memo ∧
      NoTrace p' q' := by
  rw [outputSocket] at h
  rcases hsource : setting.graph.source? output.id socket with _ | source
  · rw [hsource] at h
    cases h
    exact ⟨p', by rw [outputSocket, hsource], hmemo, .refl p'⟩
  simp only [hsource] at h
  rcases hs : signal setting source p with ⟨fault | s, q₁⟩
  · rw [hs] at h
    cases h
  rw [hs] at h
  cases h
  obtain ⟨q', hs', hmemo', htrace⟩ := signal_repeats hs hsteady hmemo hlooks
  refine ⟨q', ?_, hmemo', htrace⟩
  simp only [outputSocket, hsource, hs']

/-- What was displayed is displayed again. -/
lemma display_repeats {a : Appearance} (h : display setting p = (.ok a, q))
    (hsteady : setting.graph.IsSteady) (hmemo : p'.memo = p.memo)
    (hlooks : FindsLooks p'.triggers q.exchanges) :
    ∃ q', display setting p' = (.ok a, q') ∧ NoTrace p' q' := by
  rcases hout : setting.graph.output? with _ | output
  · rw [display, hout] at h
    cases h
    exact ⟨p', by rw [display, hout], .refl p'⟩
  obtain ⟨style, content, q₁, hstyle, hcontent, hastyle, htext⟩ := display_ok hout h
  obtain ⟨ids, hids, -⟩ := outputSocket_asked hcontent
  obtain ⟨q₁', hstyle', hmemo₁, htrace₁⟩ :=
    outputSocket_repeats hstyle hsteady hmemo (hlooks.mono hids.extends.exchanges)
  obtain ⟨q', hcontent', -, htrace⟩ :=
    outputSocket_repeats hcontent hsteady hmemo₁ (by rwa [htrace₁.triggers])
  exact ⟨q', display_of_ok hout hstyle' hcontent' hastyle htext, htrace₁.trans htrace⟩

/-- **An evaluation that is repeated leaves no trace**: it gives the same appearance, and nothing
more is remembered of triggers, drawn or fired, if the triggers are remembered as they were looked
at. -/
theorem run_repeats {a : Appearance} {triggers triggers' : Fields} {drawn : Nat} {outlet : σ}
    (h : run setting (.start triggers drawn outlet) = (.ok a, q))
    (hsteady : setting.graph.IsSteady) (hlooks : FindsLooks triggers' q.exchanges) (drawn' : Nat)
    (outlet' : σ) :
    ∃ q', run setting (.start triggers' drawn' outlet') = (.ok a, q') ∧
      NoTrace (.start triggers' drawn' outlet') q' := by
  obtain ⟨q₁, hall, hdisplay⟩ := run_ok h
  obtain ⟨ids, hids, -⟩ := display_asked hdisplay
  have hstart : (Progress.start triggers' drawn' outlet').memo =
      (Progress.start triggers drawn outlet).memo := rfl
  obtain ⟨q₁', hall', hmemo₁, htrace₁⟩ :=
    visitAll_repeats hall hsteady hstart (hlooks.mono hids.extends.exchanges)
  obtain ⟨q', hdisplay', htrace⟩ :=
    display_repeats hdisplay hsteady hmemo₁ (by rwa [htrace₁.triggers])
  refine ⟨q', ?_, htrace₁.trans htrace⟩
  rw [run, hall']
  exact hdisplay'

end Whole

end Evaluation

end DesignGraph
