import DesignGraph.Action.Dispatcher
import Mathlib.Data.List.Basic
import Mathlib.Data.List.Induction
/-!
# Rounds of calls

Whatever happens, a dispatcher calls its processors one after the other. What one of them answers
depends on what it has heard of itself, and a call is heard of by nobody but the processor that is
called. So the answers of a round are settled when it begins: to deliver an event, or to shut down,
is to add this round to the journal. Only a strict delivery breaks off, with the first refusal.

## Main definitions

* `DesignGraph.Processor.answer` — what a processor answers.
* `DesignGraph.dealings` — what the processor at a position was called for and what it answered;
  `DesignGraph.eventsOf` the events among it.
* `DesignGraph.Dispatcher.after` — a dispatcher after further calls.
* `DesignGraph.Dispatcher.round`, `DesignGraph.Dispatcher.callAll` — a call of every processor, for
  one thing and for one thing after the other.
* `DesignGraph.firstRefusal`, `DesignGraph.untilRefusal` — where a strict round breaks off.

## Main results

* `DesignGraph.Dispatcher.dealings_round` — in a round every processor is called once.
* `DesignGraph.Dispatcher.deliver_lenient`, `DesignGraph.Dispatcher.deliver_strict`,
  `DesignGraph.Dispatcher.shutdown_eq` — what a delivery and a shutdown come to.
-/

set_option relaxedAutoImplicit false
set_option autoImplicit false

namespace DesignGraph

/-- What a processor that has heard of `events` answers: the message if it refuses. Nobody refuses
to drop events. -/
def Processor.answer (processor : Processor) (events : List Event) : Occasion → Option String
  | .event event => processor.refusal events event
  | .shutdown => processor.closeRefusal events
  | .cleared => none

/-! ## Journals -/

variable {journal : List Call} {position : Nat} {occasion : Occasion}

/-- What the processor at `position` was called for and what it answered, in order. -/
def dealings (journal : List Call) (position : Nat) : List (Occasion × Option String) :=
  journal.filterMap fun call =>
    if call.position = position then some (call.occasion, call.refusal) else none

/-- The events among dealings with a processor. -/
def eventsOf (dealings : List (Occasion × Option String)) : List Event :=
  dealings.filterMap fun
    | (.event event, _) => some event
    | _ => none

/-- What a longer journal tells of a processor comes after what it told before. -/
lemma heard_append (journal later : List Call) (position : Nat) :
    heard (journal ++ later) position = heard journal position ++ heard later position :=
  List.filterMap_append

lemma dealings_append (journal later : List Call) (position : Nat) :
    dealings (journal ++ later) position = dealings journal position ++ dealings later position :=
  List.filterMap_append

/-- A processor has heard of the events for which it was called. -/
lemma heard_eq_eventsOf (journal : List Call) (position : Nat) :
    heard journal position = eventsOf (dealings journal position) := by
  rw [heard, eventsOf, dealings, List.filterMap_filterMap]
  refine List.filterMap_congr fun call _ => ?_
  by_cases hposition : call.position = position <;> cases call.occasion <;> simp [hposition]

/-- A call is heard of by nobody but the processor that is called. -/
lemma heard_concat_of_ne {call : Call} (h : call.position ≠ position) :
    heard (journal ++ [call]) position = heard journal position := by
  rw [heard_append, heard_eq_eventsOf [call], dealings, List.filterMap_cons, if_neg h]
  exact List.append_nil _

/-! ## Rounds -/

/-- The calls of the processors from `position` on, each of which answers after what it has heard of
in the journal. -/
def callsFrom (occasion : Occasion) (journal : List Call) : Nat → List Processor → List Call
  | _, [] => []
  | position, processor :: rest =>
    ⟨position, occasion, processor.answer (heard journal position) occasion⟩ ::
      callsFrom occasion journal (position + 1) rest

/-- The first message with which a call was refused. -/
def firstRefusal (calls : List Call) : Option String :=
  calls.findSome? (·.refusal)

/-- The calls up to the first one that was refused. -/
def untilRefusal : List Call → List Call
  | [] => []
  | call :: rest => call :: if call.refusal.isSome then [] else untilRefusal rest

/-- Further calls of processors before them have no bearing on the answers of processors. -/
lemma callsFrom_concat {call : Call} {processors : List Processor} (h : call.position < position) :
    callsFrom occasion (journal ++ [call]) position processors =
      callsFrom occasion journal position processors := by
  induction processors generalizing position with
  | nil => rfl
  | cons processor rest ih =>
    rw [callsFrom, callsFrom, heard_concat_of_ne (Nat.ne_of_lt h), ih (Nat.lt_succ_of_lt h)]

lemma callsFrom_eq_mapIdx (occasion : Occasion) (journal : List Call) (position : Nat)
    (processors : List Processor) :
    callsFrom occasion journal position processors = processors.mapIdx fun i processor =>
      ⟨position + i, occasion, processor.answer (heard journal (position + i)) occasion⟩ := by
  induction processors generalizing position with
  | nil => rfl
  | cons processor rest ih =>
    rw [callsFrom, ih, List.mapIdx_cons]
    simp only [Nat.add_zero, Nat.add_assoc, Nat.add_comm 1]

namespace Dispatcher

variable {d : Dispatcher}

/-- The dispatcher after further calls. -/
def after (d : Dispatcher) (calls : List Call) : Dispatcher :=
  { d with journal := d.journal ++ calls }

lemma journal_after (d : Dispatcher) (calls : List Call) :
    (d.after calls).journal = d.journal ++ calls :=
  rfl

lemma after_nil (d : Dispatcher) : d.after [] = d := by
  rw [after, List.append_nil]

lemma after_after (d : Dispatcher) (calls more : List Call) :
    (d.after calls).after more = d.after (calls ++ more) := by
  simp only [after, List.append_assoc]

/-- The round in which every processor is called once, in order, and answers after what it has heard
of so far. -/
def round (d : Dispatcher) (occasion : Occasion) : List Call :=
  d.processors.mapIdx fun position processor =>
    ⟨position, occasion, processor.answer (heard d.journal position) occasion⟩

lemma round_eq_callsFrom (d : Dispatcher) (occasion : Occasion) :
    d.round occasion = callsFrom occasion d.journal 0 d.processors := by
  simp only [round, callsFrom_eq_mapIdx, Nat.zero_add]

/-- **In a round every processor is called once**, and nobody else is. -/
lemma dealings_round (d : Dispatcher) (occasion : Occasion) (position : Nat) :
    dealings (d.round occasion) position = (d.processors[position]?.map fun processor =>
      (occasion, processor.answer (heard d.journal position) occasion)).toList := by
  rw [round]
  generalize d.processors = processors
  induction processors using List.reverseRecOn with
  | nil => rfl
  | append_singleton earlier last ih =>
    rw [List.mapIdx_append, dealings_append, ih]
    rcases Nat.lt_trichotomy position earlier.length with hlt | rfl | hgt
    · simp [dealings, List.getElem?_append_left hlt, Nat.ne_of_gt hlt]
    · simp [dealings]
    · have hnone : (earlier ++ [last])[position]? = none :=
        List.getElem?_eq_none (by simpa using Nat.succ_le_of_lt hgt)
      simp [dealings, hnone, List.getElem?_eq_none (Nat.le_of_lt hgt), Nat.ne_of_lt hgt]

/-- A call of a round has its occasion, and is answered by the processor that is called. -/
lemma exists_of_mem_round {occasion : Occasion} {call : Call} (h : call ∈ d.round occasion) :
    call.occasion = occasion ∧ ∃ processor, d.processors[call.position]? = some processor ∧
      call.refusal = processor.answer (heard d.journal call.position) occasion := by
  obtain ⟨position, hposition, rfl⟩ := List.exists_of_mem_mapIdx h
  exact ⟨rfl, d.processors[position], List.getElem?_eq_getElem hposition, rfl⟩

/-- In a round every processor is told of the event. -/
lemma heard_round_event {position : Nat} (h : position < d.processors.length) (event : Event) :
    heard (d.round (.event event)) position = [event] := by
  rw [heard_eq_eventsOf, dealings_round, List.getElem?_eq_getElem h]
  rfl

/-- Offering an event is a round among the processors from `position` on, which a strict one breaks
off with the first refusal. -/
lemma offer_eq (strict : Bool) (event : Event) (position : Nat) (processors : List Processor)
    (journal : List Call) :
    let calls := callsFrom (.event event) journal position processors
    offer strict event position processors journal =
      if strict then ((firstRefusal calls).map .refused, journal ++ untilRefusal calls)
      else (none, journal ++ calls) := by
  induction processors generalizing position journal with
  | nil => cases strict <;> simp [offer, callsFrom, firstRefusal, untilRefusal]
  | cons processor rest ih =>
    have hrest := ih (position + 1)
      (journal ++ [⟨position, .event event, processor.refusal (heard journal position) event⟩])
    rw [callsFrom_concat (Nat.lt_succ_self _)] at hrest
    simp only [offer, hrest, callsFrom, Processor.answer]
    cases strict <;> rcases processor.refusal (heard journal position) event with _ | message <;>
      simp [firstRefusal, untilRefusal]

/-- Shutting down is a round among the processors from `position` on. -/
lemma closeAll_eq (position : Nat) (processors : List Processor) (journal : List Call) :
    let calls := callsFrom .shutdown journal position processors
    closeAll position processors journal = (firstRefusal calls, journal ++ calls) := by
  induction processors generalizing position journal with
  | nil => simp [closeAll, callsFrom, firstRefusal]
  | cons processor rest ih =>
    simp only [closeAll, ih, callsFrom_concat (Nat.lt_succ_self _), callsFrom, Processor.answer]
    rcases processor.closeRefusal (heard journal position) with _ | message <;> simp [firstRefusal]

/-- **A delivery is a round**, unless the dispatcher is strict. -/
lemma deliver_lenient (hd : d.strict = false) (event : Event) :
    d.deliver event = (none, d.after (d.round (.event event))) := by
  simp [deliver, offer_eq, ← round_eq_callsFrom, after, hd]

/-- **A strict delivery is a round that ends with the first refusal**, which is reported. -/
lemma deliver_strict (hd : d.strict = true) (event : Event) :
    d.deliver event =
      ((firstRefusal (d.round (.event event))).map .refused,
        d.after (untilRefusal (d.round (.event event)))) := by
  simp [deliver, offer_eq, ← round_eq_callsFrom, after, hd]

/-- **What a shutdown comes to**: a round, also of those after one that refuses, and a strict
dispatcher reports the first refusal. -/
lemma shutdown_eq (d : Dispatcher) :
    d.shutdown =
      (if d.strict then (firstRefusal (d.round .shutdown)).map .refused else none,
        d.after (d.round .shutdown)) := by
  simp only [shutdown, closeAll_eq, ← round_eq_callsFrom, after]

/-! ## Strict rounds -/

/-- There are no calls that do not belong to the round. -/
lemma untilRefusal_subset (calls : List Call) : untilRefusal calls ⊆ calls := by
  induction calls with
  | nil => exact List.Subset.refl []
  | cons call rest ih =>
    rw [untilRefusal]
    split_ifs
    · exact List.subset_append_left [call] rest
    · exact List.cons_subset_cons call ih

/-- A delivery adds calls of a round, and no others. -/
lemma exists_calls_of_deliver (event : Event) (d : Dispatcher) :
    ∃ calls ⊆ d.round (.event event), (d.deliver event).2 = d.after calls := by
  cases hd : d.strict with
  | false => exact ⟨_, List.Subset.refl _, congrArg Prod.snd (deliver_lenient hd event)⟩
  | true => exact ⟨_, untilRefusal_subset _, congrArg Prod.snd (deliver_strict hd event)⟩

/-- A round that nobody breaks off is complete. -/
lemma untilRefusal_of_firstRefusal_eq_none {calls : List Call} (h : firstRefusal calls = none) :
    untilRefusal calls = calls := by
  induction calls with
  | nil => rfl
  | cons call rest ih =>
    obtain ⟨hcall, hrest⟩ := List.forall_mem_cons.1 (List.findSome?_eq_none_iff.1 h)
    rw [untilRefusal, hcall, ih (List.findSome?_eq_none_iff.2 hrest)]
    rfl

/-- A strict round among the processors from `position` on is one among those up to the first that
refuses. -/
lemma untilRefusal_callsFrom {processors : List Processor} {message : String}
    (h : firstRefusal (callsFrom occasion journal position processors) = some message) :
    ∃ i processor, processors[i]? = some processor ∧
      processor.answer (heard journal (position + i)) occasion = some message ∧
      untilRefusal (callsFrom occasion journal position processors) =
        callsFrom occasion journal position (processors.take (i + 1)) := by
  induction processors generalizing position with
  | nil => cases h
  | cons processor rest ih =>
    rcases hanswer : processor.answer (heard journal position) occasion with _ | refusal
    · rw [callsFrom, hanswer] at h
      have hrest : firstRefusal (callsFrom occasion journal (position + 1) rest) = some message := h
      obtain ⟨i, other, hother, hmessage, huntil⟩ := ih hrest
      refine ⟨i + 1, other, hother, ?_, ?_⟩
      · rw [← hmessage, Nat.add_assoc, Nat.add_comm 1]
      · rw [callsFrom, untilRefusal, hanswer, huntil, List.take_succ_cons, callsFrom, hanswer]
        rfl
    · rw [callsFrom, hanswer] at h
      cases h
      refine ⟨0, processor, rfl, hanswer, ?_⟩
      rw [callsFrom, untilRefusal, hanswer, List.take_succ_cons, callsFrom, hanswer]
      rfl

/-- **A strict round reaches the processors up to the first that refuses**, and nobody else. -/
lemma untilRefusal_round {event : Event} {message : String}
    (h : firstRefusal (d.round (.event event)) = some message) :
    ∃ position processor, d.processors[position]? = some processor ∧
      processor.refusal (heard d.journal position) event = some message ∧
      ∀ other < d.processors.length, heard (untilRefusal (d.round (.event event))) other =
        if other ≤ position then [event] else [] := by
  rw [round_eq_callsFrom] at h ⊢
  obtain ⟨position, processor, hprocessor, hmessage, huntil⟩ := untilRefusal_callsFrom h
  rw [Nat.zero_add] at hmessage
  refine ⟨position, processor, hprocessor, hmessage, fun other hother => ?_⟩
  let reached : Dispatcher := { d with processors := d.processors.take (position + 1) }
  rw [huntil]
  change heard (callsFrom (.event event) reached.journal 0 reached.processors) other = _
  rw [← round_eq_callsFrom]
  split_ifs with hle
  · refine heard_round_event ?_ event
    rw [List.length_take]
    omega
  · have hnone : reached.processors[other]? = none :=
      List.getElem?_eq_none (by rw [List.length_take]; omega)
    rw [heard_eq_eventsOf, dealings_round, hnone]
    rfl

/-! ## Round after round -/

/-- All processors are called, for one thing after the other. -/
def callAll (d : Dispatcher) : List Occasion → Dispatcher
  | [] => d
  | occasion :: rest => callAll (d.after (d.round occasion)) rest

/-- What waits has no bearing on rounds, and they leave it alone. -/
lemma callAll_pending (d : Dispatcher) (pending : List Event) (occasions : List Occasion) :
    callAll { d with pending := pending } occasions =
      { d.callAll occasions with pending := pending } := by
  induction occasions generalizing d with
  | nil => rfl
  | cons occasion rest ih => exact ih (d.after (d.round occasion))

/-- Rounds only add to the journal. -/
lemma callAll_eq (d : Dispatcher) (occasions : List Occasion) :
    d.callAll occasions = { d with journal := (d.callAll occasions).journal } := by
  induction occasions generalizing d with
  | nil => rfl
  | cons occasion rest ih => exact ih (d.after (d.round occasion))

/-- Deliveries are rounds, unless the dispatcher is strict. -/
lemma deliverAll_eq_callAll (hd : d.strict = false) (events : List Event) :
    deliverAll events d = (none, d.callAll (events.map .event)) := by
  induction events generalizing d with
  | nil => rfl
  | cons event rest ih =>
    rw [deliverAll, deliver_lenient hd]
    exact ih hd

/-- In rounds all processors are told of the events, one after the other. -/
lemma heard_callAll {position : Nat} (h : position < d.processors.length) (events : List Event) :
    heard (d.callAll (events.map .event)).journal position =
      heard d.journal position ++ events := by
  induction events generalizing d with
  | nil => exact (List.append_nil _).symm
  | cons event rest ih =>
    have hfirst : heard (d.after (d.round (.event event))).journal position =
        heard d.journal position ++ [event] := by
      rw [after, heard_append, heard_round_event h]
    have hrest := ih (d := d.after (d.round (.event event))) h
    rw [hfirst, List.append_assoc] at hrest
    exact hrest

end Dispatcher

end DesignGraph
