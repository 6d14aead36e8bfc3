import DesignGraph.Action.Dispatcher
import DesignGraph.Proofs.Evaluation.Display
/-!
# Nothing flows back from what is fired

Whether an action fires depends on what is remembered of its trigger, and what it fires goes to
whoever listens. Neither comes back into the evaluation: with another memory of triggers, and with
other listeners or none, it displays the same and draws the same samples, as long as it returns. It
also leaves the same marks, since the values with which actions look at their triggers are signals;
so two memories that differ at the start have the same written to them.

## Main results

* `DesignGraph.Evaluation.run_writes` — what is remembered of triggers was there or was written.
* `DesignGraph.Evaluation.effects_do_not_flow_back` — neither memory nor listeners have a bearing on
  what is displayed, drawn and written.
-/

set_option relaxedAutoImplicit false
set_option autoImplicit false

namespace DesignGraph

namespace Evaluation

variable {σ τ : Type} {setting : Setting σ} {post : Event → τ → Option Fault × τ}
  {path : List String} {p q : Progress σ} {before : Fields}

/-! ## What is written -/

/-- What is remembered of triggers is what was remembered at the start, with all that was written
since over it. -/
def Writes (before : Fields) (p : Progress σ) : Prop :=
  p.triggers = Fields.merge before (written p.exchanges)

/-- What is recorded along with a granted local request is written if it is a look. -/
lemma Writes.met {node : Node} {request : Request} {a : request.Answer} (h : Writes before p)
    (hl : IsLocal setting.graph node request)
    (hm : ∀ read, meet setting node read request p = (.ok a, q)) :
    Writes before (record ⟨node.id, request, a⟩ q) := by
  obtain rfl := eq_effect_of_meet hl hm
  rw [Writes, written_record]
  cases request with
  | edge v =>
    rw [Fields.merge, List.foldl_append, ← Fields.merge]
    exact congrArg (Fields.put node.id v) h
  | _ =>
    simp only [written, List.filterMap_cons_none, List.filterMap_nil, List.append_nil]
    exact h

/-- **Looks at triggers are written, and nothing else is**, all along an evaluation. -/
lemma Runs.writes {job : Job} {r : Except Fault Signal × Progress σ}
    (h : Runs setting path job p r) (hp : Writes before p) : Writes before r.2 := by
  induction h with
  | overridden | recalled | cut | absent | done | fail => exact hp
  | entered _ _ _ _ _ ih => exact ih hp
  | failed _ _ _ _ _ ih => exact ih hp
  | @wired path node socket next p source s q r _ _ _ ihv ih =>
    refine ih ?_
    rw [Writes, written_record]
    exact (ihv hp).trans (congrArg (Fields.merge before) (List.append_nil _).symm)
  | broken _ _ ihv => exact ihv hp
  | met hl hm _ ih => exact ih (hp.met hl hm)
  | @refused path node request next p f q hl hm =>
    have hkept := (meet_keeps hl hm).2.2
    obtain rfl := eq_effect_of_meet hl hm
    cases request with
    | edge v => cases hm fun id p => (.ok ⟨.null, id⟩, p)
    | _ => exact hp

/-- **What a whole evaluation remembers of triggers was there or was written.** -/
lemma run_writes (setting : Setting σ) (triggers : Fields) (drawn : Nat) (outlet : σ) :
    Writes triggers (run setting (.start triggers drawn outlet)).2 :=
  run_keeps (P := Writes triggers) (fun id p hp => (signal_runs setting id p).writes hp) rfl

/-! ## Nothing flows back -/

/-- **Side effects never flow back into what is displayed.** Let an evaluation return, also when
something else is remembered of triggers and when events go elsewhere: to nobody, or to a dispatcher
with whichever processors. Then it gives the same style, entry by entry, and the same content, draws
as many samples, and writes the same to the memory of triggers: the same nodes look at their
triggers, in the same order, with the same values.

**Proof sketch.** The two evaluations are alike, and what each of them remembers of triggers in the
end is what it has written. -/
theorem effects_do_not_flow_back {triggers triggers' : Fields} {drawn : Nat} {outlet : σ}
    {outlet' : τ} {a a' : Appearance} {q' : Progress τ}
    (h : run setting (.start triggers drawn outlet) = (.ok a, q))
    (h' : run (setting.heardBy post) (.start triggers' drawn outlet') = (.ok a', q')) :
    a'.style = a.style ∧ a'.content = a.content ∧ q'.drawn = q.drawn ∧
      written q'.exchanges = written q.exchanges ∧
      q.triggers = Fields.merge triggers (written q.exchanges) ∧
      q'.triggers = Fields.merge triggers' (written q'.exchanges) := by
  obtain ⟨rfl, hq⟩ := run_heardBy h h' (.inr rfl)
  have hwrites := run_writes setting triggers drawn outlet
  have hwrites' := run_writes (setting.heardBy post) triggers' drawn outlet'
  rw [h] at hwrites
  rw [h'] at hwrites'
  exact ⟨rfl, rfl, Nat.add_right_cancel hq.drawn, hq.written, hwrites, hwrites'⟩

/-- A draw that is won with a sample below one half. The prize is shown and leads to its page, and
the null that comes of leading there goes into the style. -/
def lottery : Graph :=
  ⟨[⟨"draw", "RANDOM", []⟩, ⟨"half", "NUMBER", [("value", .float 0.5)]⟩, ⟨"won", "LESS_THAN", []⟩,
      ⟨"go", "NAVIGATE", [("value", .str "prize")]⟩, ⟨"dress", "STYLE", []⟩,
      ⟨"red", "COLOR", [("value", .str "red")]⟩, ⟨"out", "OUTPUT", []⟩],
    [⟨"draw", "won", "in-a"⟩, ⟨"half", "won", "in-b"⟩, ⟨"won", "go", "in-trigger"⟩,
      ⟨"go", "dress", "in-bg"⟩, ⟨"red", "dress", "in-text"⟩, ⟨"dress", "out", "in-style"⟩,
      ⟨"won", "out", "in-content"⟩], .null, .null⟩

/-- A processor that refuses all events. -/
def grumbler : Processor :=
  { Processor.silent with refusal := fun _ _ => some "no" }

/-- The lottery looks the same to somebody who has won before, with nobody listening, as on the
first win, when a processor refuses to hear of it. -/
theorem lottery_looks_alike :
    let drawing : Setting Unit := { Setting.alone lottery with samples := fun _ => 0.25 }
    let again := run drawing (.start [("go", .bool true)] 0 ())
    let first := run (drawing.heardBy (Dispatcher.emit .null)) (.start [] 0 (.new [grumbler] false))
    again.1 = .ok ⟨[("color", .str "red")], some "true"⟩ ∧
      first.2.outlet.journal.map (·.refusal) = [some "no"] ∧
      first.1 = again.1 ∧ again.2.drawn = 1 ∧ first.2.drawn = again.2.drawn ∧
      written again.2.exchanges = [("go", .bool true)] ∧
      written first.2.exchanges = written again.2.exchanges := by
  intro drawing again first
  have hagain : again.1 = .ok ⟨[("color", .str "red")], some "true"⟩ := by decide +kernel
  have hfirst : first.1 = .ok ⟨[("color", .str "red")], some "true"⟩ := by decide +kernel
  obtain ⟨-, -, hdrawn, hwritten, -⟩ :=
    effects_do_not_flow_back (Prod.ext hagain rfl) (Prod.ext hfirst rfl)
  exact ⟨hagain, by decide +kernel, hfirst.trans hagain.symm, by decide +kernel, hdrawn,
    by decide +kernel, hwritten⟩

end Evaluation

end DesignGraph
