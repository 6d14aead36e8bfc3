import DesignGraph.Proofs.Action.Rounds
import DesignGraph.Proofs.Live.Steps
import DesignGraph.Proofs.Live.Triggers
/-!
# Closing a session

While a session goes on, its dispatcher takes events, delivers them and flushes alerts, but nothing
shuts a processor down until the session is closed. That happens once: every processor is shut down
in order, whatever the ones before it refuse, and only then is the first refusal reported, if the
dispatcher is strict. From then on the session counts as closed, also after a refusal, and closing
it again does nothing to its processors.

## Main definitions

* `DesignGraph.shutdowns` — the calls of a journal that shut processors down.
* `DesignGraph.Dispatcher.StaysOpen`, `DesignGraph.Session.StaysOpen` — nobody was shut down.

## Main results

* `DesignGraph.Session.receive_staysOpen` — only the first closing shuts processors down.
* `DesignGraph.Session.shut_down_once` — all processors are shut down, once and in order.
-/

set_option relaxedAutoImplicit false
set_option autoImplicit false

namespace DesignGraph

/-- The calls of a journal that shut processors down, in order. -/
def shutdowns (journal : List Call) : List Call :=
  journal.filter (·.occasion = .shutdown)

lemma shutdowns_append (journal later : List Call) :
    shutdowns (journal ++ later) = shutdowns journal ++ shutdowns later :=
  List.filter_append ..

/-! ## Dispatchers -/

namespace Dispatcher

variable {d d' d'' : Dispatcher}

/-- The processors of a dispatcher are the same, and none of them was shut down meanwhile. -/
structure StaysOpen (d d' : Dispatcher) : Prop where
  strict : d'.strict = d.strict
  processors : d'.processors = d.processors
  shutdowns : shutdowns d'.journal = shutdowns d.journal

lemma StaysOpen.refl (d : Dispatcher) : StaysOpen d d :=
  ⟨rfl, rfl, rfl⟩

lemma StaysOpen.trans (h : StaysOpen d d') (h' : StaysOpen d' d'') : StaysOpen d d'' :=
  ⟨h'.strict.trans h.strict, h'.processors.trans h.processors, h'.shutdowns.trans h.shutdowns⟩

/-- All calls of a shutdown shut processors down. -/
lemma shutdowns_round (d : Dispatcher) :
    DesignGraph.shutdowns (d.round .shutdown) = d.round .shutdown :=
  List.filter_eq_self.2 fun _ hcall => decide_eq_true (exists_of_mem_round hcall).1

/-- Nobody is shut down by a delivery. -/
lemma deliver_staysOpen (event : Event) (d : Dispatcher) : StaysOpen d (d.deliver event).2 := by
  obtain ⟨calls, hcalls, heq⟩ := exists_calls_of_deliver event d
  have hnone : DesignGraph.shutdowns calls = [] := by
    refine List.filter_eq_nil_iff.2 fun call hcall => ?_
    rw [(exists_of_mem_round (hcalls hcall)).1]
    exact nofun
  rw [heq]
  refine ⟨rfl, rfl, ?_⟩
  rw [journal_after, shutdowns_append, hnone, List.append_nil]

/-- Nobody is shut down by deliveries. -/
lemma deliverAll_staysOpen (events : List Event) (d : Dispatcher) :
    StaysOpen d (deliverAll events d).2 := by
  induction events generalizing d with
  | nil => exact .refl d
  | cons event rest ih =>
    have hfirst := deliver_staysOpen event d
    rw [deliverAll]
    rcases hdeliver : d.deliver event with ⟨_ | fault, d₁⟩ <;> rw [hdeliver] at hfirst
    · exact hfirst.trans (ih d₁)
    · exact hfirst

/-- Nobody is shut down by a flush. -/
lemma flush_staysOpen (d : Dispatcher) : StaysOpen d d.flush.2 := by
  have hall := deliverAll_staysOpen d.pending { d with pending := [] }
  rw [flush]
  rcases hdelivered : deliverAll d.pending { d with pending := [] } with ⟨_ | fault, d'⟩ <;>
  · rw [hdelivered] at hall
    exact ⟨hall.strict, hall.processors, hall.shutdowns⟩

/-- Nobody is shut down as an event is taken. -/
lemma emit_staysOpen (element : Value) (event : Event) (d : Dispatcher) :
    StaysOpen d (d.emit element event).2 := by
  rw [emit]
  split_ifs
  · exact .refl d
  · dsimp only
    split_ifs
    · exact ⟨rfl, rfl, rfl⟩
    · exact deliver_staysOpen _ d

end Dispatcher

/-! ## Sessions -/

namespace Session

variable {s s' s'' : Session}

/-- No processor of a session was shut down meanwhile, and it is closed if it was before. -/
structure StaysOpen (s s' : Session) : Prop where
  closed : s'.closed = s.closed
  dispatcher : Dispatcher.StaysOpen s.dispatcher s'.dispatcher

lemma StaysOpen.refl (s : Session) : StaysOpen s s :=
  ⟨rfl, .refl _⟩

lemma StaysOpen.trans (h : StaysOpen s s') (h' : StaysOpen s' s'') : StaysOpen s s'' :=
  ⟨h'.closed.trans h.closed, h.dispatcher.trans h'.dispatcher⟩

/-- Where the dispatcher is the same, nobody was shut down. -/
lemma StaysOpen.of_eq (hclosed : s'.closed = s.closed) (hd : s'.dispatcher = s.dispatcher) :
    StaysOpen s s' :=
  ⟨hclosed, hd ▸ .refl _⟩

lemma visit_staysOpen (element : Element) (s : Session) : StaysOpen s (s.visit element).2 := by
  rcases visit_effects element s with heq | ⟨shown, animations, p, rfl, heq⟩ <;> rw [heq]
  · exact .refl s
  · refine ⟨rfl, ?_⟩
    exact Composition.compose_keeps_outlet
      (Q := fun outlet : Outlet => Dispatcher.StaysOpen s.dispatcher outlet.dispatcher)
      (fun event outlet h => h.trans (Dispatcher.emit_staysOpen _ event outlet.dispatcher))
      (.refl s.dispatcher)

lemma visitAll_staysOpen (elements : List Element) (s : Session) :
    StaysOpen s (visitAll elements s).2 := by
  induction elements generalizing s with
  | nil => exact .refl s
  | cons element rest ih =>
    have hfirst := visit_staysOpen element s
    rw [visitAll]
    rcases hvisit : s.visit element with ⟨_ | fault, s₁⟩ <;> rw [hvisit] at hfirst
    · exact hfirst.trans (ih s₁)
    · exact hfirst

lemma mount_staysOpen (s : Session) : StaysOpen s s.mount := by
  obtain ⟨animations, heq⟩ := mount_frame s
  exact .of_eq (by rw [heq]) (by rw [heq])

lemma setTime_staysOpen (s : Session) : StaysOpen s s.setTime := by
  obtain ⟨start, animations, time, clock, heq⟩ := setTime_frame s
  exact .of_eq (by rw [heq]) (by rw [heq])

lemma flush_staysOpen (s : Session) : StaysOpen s s.flush.2 := by
  rw [flush_effects]
  exact ⟨rfl, Dispatcher.flush_staysOpen s.dispatcher⟩

lemma navigateTo_staysOpen (page : Value) (s : Session) : StaysOpen s (s.navigateTo page).2 := by
  rcases navigateTo_effects page s with ⟨-, heq⟩ | ⟨-, -, heq⟩ | ⟨-, -, _, _, _, -, heq⟩ <;>
    rw [heq]
  · exact .refl s
  · exact .of_eq rfl rfl
  · exact ⟨rfl, Dispatcher.deliver_staysOpen _ s.dispatcher⟩

lemma followRequest_staysOpen (s : Session) : StaysOpen s s.followRequest.2 := by
  rw [followRequest]
  split_ifs
  · exact .refl s
  · have hasked : StaysOpen s { s with pendingPage := .null } := .of_eq rfl rfl
    exact hasked.trans (navigateTo_staysOpen s.pendingPage _)

/-- Nobody is shut down by a tick. -/
lemma tick_staysOpen (s : Session) : StaysOpen s s.tick.2 := by
  have hpass := (setTime_staysOpen s).trans (visitAll_staysOpen s.shown s.setTime)
  rw [tick, ← shown]
  rcases hall : visitAll s.shown s.setTime with ⟨_ | fault, passed⟩ <;> rw [hall] at hpass
  · have hflush := hpass.trans (flush_staysOpen passed)
    dsimp only
    rcases hflushed : passed.flush with ⟨_ | fault, flushed⟩ <;> rw [hflushed] at hflush
    · have hcount : StaysOpen s { flushed with frame := flushed.frame + 1 } :=
        hflush.trans (.of_eq rfl rfl)
      exact hcount.trans (followRequest_staysOpen _)
    · exact hflush
  · exact hpass

/-- Nobody is shut down by the frames of a run. -/
lemma runFrames_staysOpen (interval : Float) (stopAt : Option Int) (limit count : Nat)
    (s : Session) : StaysOpen s (runFrames interval stopAt limit count s).2 := by
  induction limit generalizing count s with
  | zero => exact .refl s
  | succ limit ih =>
    rw [runFrames]
    split_ifs
    · exact .refl s
    dsimp only
    have hread : StaysOpen s s.readClock.2 := .of_eq rfl rfl
    have hticked := hread.trans (tick_staysOpen s.readClock.2)
    rcases htick : s.readClock.2.tick with ⟨_ | fault, s₁⟩ <;> rw [htick] at hticked
    · refine .trans (hticked.trans ?_) (ih (count + 1) _)
      split_ifs <;> exact .of_eq rfl rfl
    · exact hticked

/-- Nobody is shut down by a run. -/
lemma run_staysOpen (frames : Option Int) (fps : Number) (stopAt : Option Int) (s : Session) :
    StaysOpen s (s.run frames fps stopAt).2 := by
  rw [run]
  rcases Number.dividedBy (.float 1) fps with fault | interval
  · exact .refl s
  have hstarted : StaysOpen s { s with running := true } := .of_eq rfl rfl
  exact (hstarted.trans (runFrames_staysOpen interval stopAt _ 0 _)).trans (.of_eq rfl rfl)

/-! ## Closing -/

/-- Closing a closed session again does nothing to its processors. -/
lemma close_of_closed (h : s.closed = true) : s.close = (none, s.stop) := by
  rw [close]
  exact if_pos h

/-- The first closing shuts all processors down and reports what that comes to. -/
lemma close_of_open (h : s.closed = false) :
    s.close.1 = s.dispatcher.shutdown.1 ∧ s.close.2.dispatcher = s.dispatcher.shutdown.2 ∧
      s.close.2.closed = true := by
  have hopen : ¬s.stop.closed = true := by
    rw [stop, h]
    exact Bool.false_ne_true
  rw [close]
  dsimp only
  rw [if_neg hopen]
  exact ⟨rfl, rfl, rfl⟩

/-- **Nobody is shut down by an input**, unless it is the first closing. -/
lemma receive_staysOpen {input : Input} (h : input = .close → s.closed = true) :
    StaysOpen s (s.receive input).2 := by
  have pointing {input : Input} (hpoints : input.target?.isSome) :
      StaysOpen s (s.receive input).2 := by
    obtain ⟨_, _, heq⟩ := receive_pointing hpoints s
    rw [heq]
    exact .of_eq rfl rfl
  cases input with
  | mount => exact mount_staysOpen s
  | tick => exact tick_staysOpen s
  | run frames fps stopAt =>
    have hrun := run_staysOpen frames fps stopAt s
    rw [receive]
    rcases hran : s.run frames fps stopAt with ⟨fault | count, s₁⟩ <;> rw [hran] at hrun <;>
      exact hrun
  | stop => exact .of_eq rfl rfl
  | close =>
    rw [receive, close_of_closed (h rfl)]
    exact .of_eq rfl rfl
  | pointerEnter id => exact pointing rfl
  | pointerLeave id => exact pointing rfl
  | click id => exact pointing rfl
  | requestNavigation page => exact .of_eq rfl rfl
  | navigateTo page => exact navigateTo_staysOpen page s
  | advance seconds => exact .of_eq rfl rfl

/-- **Nobody is shut down by inputs**, if closing is not among them or has happened before. -/
lemma receiveAll_staysOpen {inputs : List Input} (h : .close ∈ inputs → s.closed = true) :
    StaysOpen s (receiveAll inputs s).2 := by
  induction inputs generalizing s with
  | nil => exact .refl s
  | cons input rest ih =>
    have hfirst : StaysOpen s (s.receive input).2 :=
      receive_staysOpen fun hclose => h (hclose ▸ List.mem_cons_self)
    exact hfirst.trans (ih fun hrest => hfirst.closed.trans (h (List.mem_cons_of_mem _ hrest)))

/-- **All processors are shut down once.** Let a session start with any dispatcher, strict or not,
whose processors may refuse to be shut down, and let it be closed after inputs among which there is
no closing. Up to then no processor was shut down. The closing shuts all of them down, one after
the other in the order in which they were registered, also those after one that refuses; it reports
the first refusal if the dispatcher is strict, and nothing else. Whatever inputs come later, also
further closings, no processor is shut down again.

**Proof sketch.** No input but a first closing adds calls to the journal that shut processors down,
and this one adds a round of them. -/
theorem shut_down_once {project : Project} {document : Document} {dispatcher : Dispatcher}
    {samples : Nat → Float} {clock : Clock} {earlier later : List Input}
    (hfirst : .close ∉ earlier) :
    let before := (receiveAll earlier (new project document dispatcher samples clock)).2
    let closing := before.receive .close
    let after := (receiveAll later closing.2).2
    let calls : List Call := dispatcher.processors.mapIdx fun position processor =>
      ⟨position, .shutdown, processor.closeRefusal (heard before.dispatcher.journal position)⟩
    shutdowns before.dispatcher.journal = shutdowns dispatcher.journal ∧
      closing.2.dispatcher.journal = before.dispatcher.journal ++ calls ∧
      closing.1 = (if dispatcher.strict then (firstRefusal calls).map .refused else none) ∧
      shutdowns after.dispatcher.journal = shutdowns dispatcher.journal ++ calls := by
  intro before closing after calls
  have hopen : StaysOpen (new project document dispatcher samples clock) before :=
    receiveAll_staysOpen fun hclose => absurd hclose hfirst
  obtain ⟨hstrict, hprocessors, hbefore⟩ := hopen.dispatcher
  obtain ⟨hfault, hdispatcher, hclosed⟩ := close_of_open hopen.closed
  have hround : before.dispatcher.round .shutdown = calls := by
    rw [Dispatcher.round, hprocessors]
    rfl
  rw [Dispatcher.shutdown_eq, hround] at hfault hdispatcher
  have hjournal : closing.2.dispatcher.journal = before.dispatcher.journal ++ calls :=
    congrArg Dispatcher.journal hdispatcher
  have hcalls : shutdowns calls = calls := by
    rw [← hround, Dispatcher.shutdowns_round]
  have hafter : StaysOpen closing.2 after := receiveAll_staysOpen fun _ => hclosed
  refine ⟨hbefore, hjournal, hstrict ▸ hfault, ?_⟩
  rw [hafter.dispatcher.shutdowns, hjournal, shutdowns_append, hbefore, hcalls]
  rfl

/-- A processor that refuses to be shut down. -/
def stubborn (message : String) : Processor :=
  { Processor.silent with closeRefusal := fun _ => some message }

/-- Two stubborn processors are shut down once, after one that is not; the first of them is
reported, and it does not help to close the session again. -/
theorem stubborn_shut_down_once :
    let start := new (chime ["on"]) chimeDocument
      (.new [.recorder, stubborn "not now", stubborn "never"] true) (fun _ => 0.5) ⟨0, 1, []⟩
    let before := (receiveAll [.tick] start).2
    let closing := before.receive .close
    let after := (receiveAll [.close, .tick, .close] closing.2).2
    .close ∉ [Input.tick] ∧ heard before.dispatcher.journal 0 ≠ [] ∧
      closing.1 = some (.refused "not now") ∧
      shutdowns after.dispatcher.journal =
        [⟨0, .shutdown, none⟩, ⟨1, .shutdown, some "not now"⟩, ⟨2, .shutdown, some "never"⟩] := by
  have hfirst : Input.close ∉ [Input.tick] := by simp
  obtain ⟨-, -, hfault, hafter⟩ := @shut_down_once (chime ["on"]) chimeDocument
    (.new [.recorder, stubborn "not now", stubborn "never"] true) (fun _ => 0.5) ⟨0, 1, []⟩
    [.tick] [.close, .tick, .close] hfirst
  exact ⟨hfirst, by decide +kernel, hfault, hafter⟩

end Session

end DesignGraph
