import DesignGraph.Proofs.Action.Rounds
/-!
# Bystanders of a refusal

A dispatcher that is not strict goes through with its rounds, whatever its processors refuse. So all
that happens to a processor is settled by what is demanded of the dispatcher and by the processor
itself: who else hears of events, and what they refuse, cannot be told from it. What was refused can
be told from the log, where each refusal is noted once.

The proof looks at a dispatcher as the accounts of its processors. Every demand changes them one by
one, and so in the same way if some of them are missing.

## Main definitions

* `DesignGraph.Demand` — what is demanded of a dispatcher.
* `DesignGraph.Dispatcher.perform`, `DesignGraph.Dispatcher.performAll` — what comes of demands.
* `DesignGraph.Account`, `DesignGraph.Dispatcher.accounts` — what happened to processors.
* `DesignGraph.Dispatcher.log` — the warnings so far.
* `DesignGraph.Dispatcher.Truthful` — the journal tells what processors answered.

## Main results

* `DesignGraph.Dispatcher.perform_eq` — every demand comes to rounds.
* `DesignGraph.Dispatcher.accounts_callAll` — rounds change the accounts one by one.
* `DesignGraph.Dispatcher.refusals_concern_nobody_else` — a refusal is noted, and nobody else is
  concerned.
-/

set_option relaxedAutoImplicit false
set_option autoImplicit false

namespace DesignGraph

/-! ## Demands -/

/-- What is demanded of a dispatcher. -/
inductive Demand where
  /-- The event of an action is emitted for an element, null for none. -/
  | emit (element : Value) (event : Event) (horigin : event.origin?.isSome)
  /-- An event is delivered. -/
  | deliver (event : Event)
  /-- The waiting alerts are delivered. -/
  | flush
  /-- A processor is added. -/
  | add (processor : Processor)
  /-- Every processor is shut down. -/
  | shutdown

namespace Demand

/-- What all processors are called for, in order, if `pending` waits. -/
def occasions (pending : List Event) : Demand → List Occasion
  | .emit element event _ =>
    if (event.stamp element).isAlert then [] else [.event (event.stamp element)]
  | .deliver event => [.event event]
  | .flush => pending.map .event
  | .add _ => []
  | .shutdown => [.shutdown]

/-- What waits afterwards, if `pending` waits before. -/
def waiting (pending : List Event) : Demand → List Event
  | .emit element event _ =>
    if (event.stamp element).isAlert then pending ++ [event.stamp element] else pending
  | .flush => []
  | .deliver _ | .add _ | .shutdown => pending

/-- The processors that are added. -/
def newcomers : Demand → List Processor
  | .add processor => [processor]
  | .emit .. | .deliver _ | .flush | .shutdown => []

/-- A demand is left out if it adds a processor that is left out. -/
def remains (keep : Processor → Bool) (demand : Demand) : Bool :=
  demand.newcomers.all keep

end Demand

/-! ## Accounts -/

/-- A processor, and what it was called for and what it answered, in order. -/
structure Account where
  processor : Processor
  dealings : List (Occasion × Option String)

/-- The account after the processor was called once more and has answered. -/
def Account.call (account : Account) (occasion : Occasion) : Account :=
  { account with
    dealings := account.dealings ++
      [(occasion, account.processor.answer (eventsOf account.dealings) occasion)] }

/-- The account after the processor was called for one thing after the other. -/
def Account.callAll (account : Account) (occasions : List Occasion) : Account :=
  occasions.foldl Account.call account

/-- It is still the account of the same processor. -/
lemma Account.processor_callAll (account : Account) (occasions : List Occasion) :
    (account.callAll occasions).processor = account.processor := by
  induction occasions generalizing account with
  | nil => rfl
  | cons occasion rest ih => exact ih (account.call occasion)

namespace Dispatcher

/-- A demand is met, or there is a fault. -/
def perform (d : Dispatcher) : Demand → Option Fault × Dispatcher
  | .emit element event _ => d.emit element event
  | .deliver event => d.deliver event
  | .flush =>
    match d.flush with
    | (.ok _, d') => (none, d')
    | (.error fault, d') => (some fault, d')
  | .add processor => (none, d.add processor)
  | .shutdown => d.shutdown

/-- Demands one after the other; a fault does not end them. -/
def performAll : List Demand → Dispatcher → List (Option Fault) × Dispatcher
  | [], d => ([], d)
  | demand :: rest, d =>
    let (fault, d') := d.perform demand
    let (faults, d'') := performAll rest d'
    (fault :: faults, d'')

/-- The accounts of all processors, in order. -/
def accounts (d : Dispatcher) : List Account :=
  d.processors.mapIdx fun position processor => ⟨processor, dealings d.journal position⟩

/-- The warnings so far. -/
def log (d : Dispatcher) : List String :=
  d.journal.filterMap d.warning

variable {d d' : Dispatcher}

/-! ## Demands come to rounds -/

/-- Processors join a dispatcher, where other alerts wait from now on. -/
def join (d : Dispatcher) (newcomers : List Processor) (pending : List Event) : Dispatcher :=
  { d with processors := d.processors ++ newcomers, pending := pending }

/-- **Every demand comes to rounds**, unless the dispatcher is strict: nothing is reported, all
processors are called for what it occasions, and who is added comes last. -/
lemma perform_eq (hd : d.strict = false) (demand : Demand) :
    d.perform demand =
      (none, (d.callAll (demand.occasions d.pending)).join demand.newcomers
        (demand.waiting d.pending)) := by
  rw [join, callAll_eq]
  cases demand with
  | emit element event horigin =>
    have hnone : event.origin?.isNone = false := by simpa using horigin
    rw [perform, emit, hnone]
    cases halert : (event.stamp element).isAlert with
    | true => simp [Demand.occasions, Demand.waiting, Demand.newcomers, halert, callAll]
    | false =>
      simp [Demand.occasions, Demand.waiting, Demand.newcomers, halert, callAll,
        deliver_lenient hd, after]
  | deliver event =>
    simp [perform, Demand.occasions, Demand.waiting, Demand.newcomers, callAll,
      deliver_lenient hd, after]
  | flush =>
    rw [perform, flush, deliverAll_eq_callAll (d := { d with pending := [] }) hd, callAll_pending,
      callAll_eq]
    simp [Demand.occasions, Demand.waiting, Demand.newcomers]
  | add processor => rfl
  | shutdown =>
    simp [perform, Demand.occasions, Demand.waiting, Demand.newcomers, callAll, shutdown_eq, hd,
      after]

/-! ## Rounds change accounts one by one -/

/-- The account of a processor after a round in which it was called. -/
lemma accounts_round (d : Dispatcher) (occasion : Occasion) :
    (d.after (d.round occasion)).accounts =
      d.accounts.map (·.call occasion) := by
  refine List.ext_getElem? fun position => ?_
  simp only [accounts, after, List.getElem?_map, List.getElem?_mapIdx, Option.map_map]
  rcases hprocessor : d.processors[position]? with _ | processor
  · rfl
  · rw [Option.map_some, Option.map_some, dealings_append, dealings_round, hprocessor,
      heard_eq_eventsOf]
    rfl

/-- **Rounds change the accounts one by one**: each processor answers as if it were alone. -/
lemma accounts_callAll (d : Dispatcher) (occasions : List Occasion) :
    (d.callAll occasions).accounts = d.accounts.map (·.callAll occasions) := by
  induction occasions generalizing d with
  | nil => exact (List.map_id d.accounts).symm
  | cons occasion rest ih =>
    rw [callAll, ih, accounts_round, List.map_map]
    rfl

/-! ## Journals that tell what was answered -/

/-- Every call went to a processor, and was answered as that one answers after what it had heard of
before. -/
def Truthful (d : Dispatcher) : Prop :=
  ∀ earlier call later, d.journal = earlier ++ call :: later →
    ∃ processor, d.processors[call.position]? = some processor ∧
      call.refusal = processor.answer (heard earlier call.position) call.occasion

/-- A call that is answered as its processor answers may be added. -/
lemma Truthful.concat {call : Call} {processor : Processor} (h : d.Truthful)
    (hprocessor : d.processors[call.position]? = some processor)
    (hanswer : call.refusal = processor.answer (heard d.journal call.position) call.occasion) :
    (d.after [call]).Truthful := by
  intro earlier other later hsplit
  rcases List.eq_nil_or_concat later with rfl | ⟨later, last, rfl⟩
  · obtain ⟨rfl, hsame⟩ := List.append_inj' hsplit rfl
    cases hsame
    exact ⟨processor, hprocessor, hanswer⟩
  · have hsplit : d.journal ++ [call] = (earlier ++ other :: later) ++ [last] := by
      simpa [after] using hsplit
    exact h earlier other later (List.append_inj' hsplit rfl).1

/-- Calls of the processors from a position on may be added. -/
lemma Truthful.callsFrom {occasion : Occasion} {position : Nat} {rest : List Processor}
    (h : d.Truthful) (hrest : ∀ i, rest[i]? = d.processors[position + i]?) :
    (d.after (callsFrom occasion d.journal position rest)).Truthful := by
  induction rest generalizing d position with
  | nil => exact (after_nil d).symm ▸ h
  | cons processor rest ih =>
    let call : Call := ⟨position, occasion, processor.answer (heard d.journal position) occasion⟩
    have hfirst : (d.after [call]).Truthful := h.concat (hrest 0).symm rfl
    have hlater (i : Nat) : rest[i]? = d.processors[position + 1 + i]? := by
      rw [Nat.add_assoc, Nat.add_comm 1]
      exact hrest (i + 1)
    have hcall : call.position < position + 1 := Nat.lt_succ_self position
    have hnext := ih hfirst hlater
    rw [after_after, journal_after, callsFrom_concat hcall] at hnext
    exact hnext

/-- Rounds are answered as processors answer. -/
lemma Truthful.callAll (h : d.Truthful) (occasions : List Occasion) :
    (d.callAll occasions).Truthful := by
  induction occasions generalizing d with
  | nil => exact h
  | cons occasion rest ih =>
    refine ih ?_
    rw [round_eq_callsFrom]
    exact h.callsFrom fun i => by rw [Nat.zero_add]

/-- Whoever comes later was not called before, and what waits was not answered. -/
lemma Truthful.join (h : d.Truthful) (newcomers : List Processor) (pending : List Event) :
    (d.join newcomers pending).Truthful := by
  intro earlier call later hsplit
  obtain ⟨processor, hprocessor, hanswer⟩ := h earlier call later hsplit
  refine ⟨processor, ?_, hanswer⟩
  have hposition := (List.getElem?_eq_some_iff.1 hprocessor).1
  rw [Dispatcher.join, List.getElem?_append_left hposition, hprocessor]

/-- Newcomers have no dealings yet. -/
lemma accounts_join (h : d.Truthful) (newcomers : List Processor) (pending : List Event) :
    (d.join newcomers pending).accounts =
      d.accounts ++ newcomers.map fun processor => ⟨processor, []⟩ := by
  have hnone (i : Nat) : dealings d.journal (i + d.processors.length) = [] := by
    refine List.filterMap_eq_nil_iff.2 fun call hcall => if_neg fun hposition => ?_
    obtain ⟨earlier, later, hsplit⟩ := List.append_of_mem hcall
    obtain ⟨processor, hprocessor, -⟩ := h earlier call later hsplit
    have hlt := (List.getElem?_eq_some_iff.1 hprocessor).1
    omega
  simp only [accounts, join, List.mapIdx_append, hnone]
  congr 1
  exact List.mapIdx_eq_iff.2 fun i => by simp

/-! ## Processors that are left out -/

/-- Two dispatchers that are not strict with the same alerts waiting, one of which lacks processors:
the accounts of the others are the same. -/
structure Lacks (keep : Processor → Bool) (d d' : Dispatcher) : Prop where
  lenient : d.strict = false
  lenient' : d'.strict = false
  truthful : d.Truthful
  truthful' : d'.Truthful
  pending : d'.pending = d.pending
  accounts : d'.accounts = d.accounts.filter fun account => keep account.processor

section Lacks

variable {keep : Processor → Bool}

lemma truthful_new (processors : List Processor) (strict : Bool) :
    Truthful (.new processors strict) :=
  fun earlier call later hsplit => by cases earlier <;> cases hsplit

/-- A new dispatcher may lack processors. -/
lemma lacks_new (keep : Processor → Bool) (processors : List Processor) :
    Lacks keep (.new processors false) (.new (processors.filter keep) false) := by
  refine ⟨rfl, rfl, truthful_new _ _, truthful_new _ _, rfl, ?_⟩
  have haccounts (processors : List Processor) : accounts (.new processors false) =
      processors.map fun processor => ⟨processor, []⟩ :=
    List.mapIdx_eq_iff.2 fun i => by simp [new, dealings]
  rw [haccounts, haccounts, List.filter_map]
  rfl

/-- Whatever the processors are called for, and whoever joins, processors may be missing. -/
lemma Lacks.extend (h : Lacks keep d d') (occasions : List Occasion) (newcomers : List Processor)
    (pending : List Event) :
    Lacks keep ((d.callAll occasions).join newcomers pending)
      ((d'.callAll occasions).join (newcomers.filter keep) pending) where
  lenient := by
    rw [join, callAll_eq]
    exact h.lenient
  lenient' := by
    rw [join, callAll_eq]
    exact h.lenient'
  truthful := (h.truthful.callAll occasions).join newcomers pending
  truthful' := (h.truthful'.callAll occasions).join (newcomers.filter keep) pending
  pending := rfl
  accounts := by
    rw [accounts_join (h.truthful.callAll occasions), accounts_join (h.truthful'.callAll occasions),
      accounts_callAll, accounts_callAll, h.accounts, List.filter_append, List.filter_map,
      List.filter_map]
    -- a call leaves the account with its processor
    simp only [Function.comp_def, Account.processor_callAll]

/-- **What the same demand comes to**, unless it adds a processor that is missing. -/
lemma Lacks.perform (h : Lacks keep d d') {demand : Demand} (hremains : demand.remains keep) :
    Lacks keep (d.perform demand).2 (d'.perform demand).2 := by
  have hkept : demand.newcomers.filter keep = demand.newcomers :=
    List.filter_eq_self.2 (List.all_eq_true.1 hremains)
  have hnext := h.extend (demand.occasions d.pending) demand.newcomers (demand.waiting d.pending)
  rw [perform_eq h.lenient, perform_eq h.lenient', h.pending]
  rw [hkept] at hnext
  exact hnext

/-- A processor that is missing is added to one of them only. -/
lemma Lacks.perform_left (h : Lacks keep d d') {demand : Demand}
    (hremains : demand.remains keep = false) : Lacks keep (d.perform demand).2 d' := by
  cases demand with
  | add processor =>
    have hdropped : [processor].filter keep = [] := by
      simpa [Demand.remains, Demand.newcomers] using hremains
    have hsame : (d'.callAll []).join [] d.pending = d' := by
      rw [callAll, join, List.append_nil, ← h.pending]
    have hnext := h.extend [] [processor] d.pending
    rw [hdropped, hsame] at hnext
    exact hnext
  | _ => cases hremains

/-- **What demands come to**, if those are left out that add missing processors. -/
lemma Lacks.performAll (h : Lacks keep d d') (demands : List Demand) :
    Lacks keep (performAll demands d).2 (performAll (demands.filter (·.remains keep)) d').2 := by
  induction demands generalizing d d' with
  | nil => exact h
  | cons demand rest ih =>
    cases hremains : demand.remains keep with
    | true =>
      rw [List.filter_cons_of_pos hremains]
      exact ih (h.perform hremains)
    | false =>
      rw [List.filter_cons_of_neg (by simp [hremains])]
      exact ih (h.perform_left hremains)

/-- Nothing is reported, unless the dispatcher is strict. -/
lemma performAll_reports_nothing (hd : d.strict = false) (demands : List Demand) :
    ∀ fault ∈ (Dispatcher.performAll demands d).1, fault = none := by
  induction demands generalizing d with
  | nil => exact nofun
  | cons demand rest ih =>
    have hfirst := perform_eq hd demand
    have hnext : (d.perform demand).2.strict = false := by
      rw [hfirst, join, callAll_eq]
      exact hd
    exact List.forall_mem_cons.2 ⟨congrArg Prod.fst hfirst, ih hnext⟩

end Lacks

/-! ## The log -/

/-- **Each refusal is noted once**, in order, and nothing else is. -/
lemma Truthful.log (h : d.Truthful) (hd : d.strict = false) :
    d.log.map some = (d.journal.filter (·.refusal.isSome)).map d.warning := by
  rw [Dispatcher.log, List.map_filterMap_some_eq_filter_map_isSome, List.filter_map]
  congr 1
  refine List.filter_congr fun call hcall => ?_
  obtain ⟨earlier, later, hsplit⟩ := List.append_of_mem hcall
  obtain ⟨processor, hprocessor, -⟩ := h earlier call later hsplit
  rw [Function.comp_apply, warning, hprocessor, hd]
  cases call.refusal <;> cases call.occasion <;> rfl

/-! ## Nobody else is concerned -/

/-- **A refusal concerns nobody but the processor that refuses.** Let processors refuse events, and
to be shut down, as they like; let some of the processors be left out, among those that a dispatcher
that is not strict starts with and among those that are added to it later; and let everything else
that is demanded of it stay as it is. Then all the others are called for the same and answer the
same, in the same order. Nothing is ever reported as a fault. The journal tells what each processor
answered after what it had heard of before, and the log notes each refusal once, in the order of the
calls, naming the processor and what it was called for.

**Proof sketch.** Every demand comes to rounds, in which each account is changed by itself; so the
accounts that are kept stay the same, demand after demand. -/
theorem refusals_concern_nobody_else (keep : Processor → Bool) (processors : List Processor)
    (demands : List Demand) :
    let (faults, d) := performAll demands (.new processors false)
    let (_, d') :=
      performAll (demands.filter (·.remains keep)) (.new (processors.filter keep) false)
    (d'.accounts = d.accounts.filter fun account => keep account.processor) ∧
      (∀ fault ∈ faults, fault = none) ∧
      d.Truthful ∧
      d.log.map some = (d.journal.filter (·.refusal.isSome)).map d.warning := by
  have hlacks := (lacks_new keep processors).performAll demands
  exact ⟨hlacks.accounts, performAll_reports_nothing rfl demands, hlacks.truthful,
    hlacks.truthful.log hlacks.lenient⟩

/-- What is noted of a processor that refuses everything, next to one that keeps all events. -/
example :
    let sulky : Processor := { Processor.silent with
      label := "sulky", refusal := fun _ _ => some "no", closeRefusal := fun _ => some "no" }
    (performAll [.deliver .plain, .shutdown] (.new [sulky, .recorder] false)).2.log =
      ["EventProcessor sulky failed on BaseEvent",
        "EventProcessor sulky failed during shutdown"] := by
  decide +kernel

end Dispatcher

end DesignGraph
