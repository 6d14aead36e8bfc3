import DesignGraph.Action.View
import DesignGraph.Proofs.Live.Deliveries
import Mathlib.Algebra.GroupWithZero.Nat
/-!
# The course of alerts

Alerts wait until they are flushed, and every other event is delivered as soon as it is emitted.
Through however many views of a dispatcher that happens, there is one queue: the alerts that were
delivered, followed by those that wait, are the alerts that were emitted, in order and each of them
once. What the numbers that flushes report add up to is how many of them were delivered, so the
balance can be drawn from outside, whether or not anybody listens.

Processors that refuse do not come between: a dispatcher that is not strict goes on to the next one.

## Main definitions

* `DesignGraph.Use.emitted` — the events that a use emits, stamped with their elements.
* `DesignGraph.Answer.delivered` — the number of alerts that an answer reports as delivered.
* `DesignGraph.Dispatcher.Balances` — the balance of the events that were emitted so far.
* `DesignGraph.Dispatcher.Serves` — what a single use has to come to.
* `DesignGraph.Dispatcher.deeds` — what a processor did, in order.

## Main results

* `DesignGraph.Dispatcher.serve_serves` — every use comes to what it has to.
* `DesignGraph.Dispatcher.balances_serveAll` — the balance holds after any uses.
* `DesignGraph.Dispatcher.alerts_conserved` — no alert is lost, duplicated or reordered.
-/

set_option relaxedAutoImplicit false
set_option autoImplicit false

namespace DesignGraph

/-- The events that a use emits, stamped with the element of the view unless they name one; what has
no origin is no event of an action and is not taken. -/
def Use.emitted : Use → List Event
  | .emit view event => if event.origin?.isSome then [event.stamp view.element] else []
  | .scope .. | .flush _ => []

/-- The number of alerts that an answer reports as delivered. -/
def Answer.delivered : Answer → Nat
  | .flushed (.ok n) => n
  | _ => 0

namespace Dispatcher

variable {d d' : Dispatcher}

/-! ## One use -/

/-- What a use has to come to: a view is made and nothing else happens; an event of an action is
taken, which delivers it at once unless it is an alert; a flush delivers the alerts that wait and
reports their number. -/
def Serves (d : Dispatcher) : Use → Answer × Dispatcher → Prop
  | .scope view element, served => served = (.view (.scoped view element), d)
  | .emit view event, (answer, d') =>
    answer = .taken (if event.origin?.isSome then none else some .noMember) ∧
      Takes (Use.emit view event).emitted d d'
  | .flush _, (answer, d') =>
    answer = .flushed (.ok d.pending.length) ∧ Hears d.pending d d' ∧ d'.pending = []

/-- **Every use comes to what it has to**, unless the dispatcher is strict. -/
theorem serve_serves (hd : d.strict = false) (use : Use) : d.Serves use (d.serve use) := by
  cases use with
  | scope view element => rfl
  | emit view event =>
    cases horigin : event.origin?.isSome with
    | true =>
      obtain ⟨d', hemit, htakes⟩ := emit_takes hd view.element horigin
      simp only [Serves, serve, Use.emitted, hemit, horigin, if_true, true_and]
      exact htakes
    | false =>
      have hnone : event.origin?.isNone = true := by simpa using horigin
      simp only [Serves, serve, Use.emitted, emit, hnone, horigin, if_true, Bool.false_eq_true,
        if_false, true_and]
      exact .refl d
  | flush view =>
    obtain ⟨d', hflush, hhears, hpending⟩ := flush_hears hd
    simp only [Serves, serve, hflush, true_and]
    exact ⟨hhears, hpending⟩

/-! ## Any number of uses -/

/-- The balance of events that were emitted since `start`, when `count` alerts were delivered: all
processors have heard of these, in order, and of every other event; the remaining alerts wait. -/
structure Balances (emitted : List Event) (count : Nat) (start d : Dispatcher) : Prop where
  strict : d.strict = start.strict
  processors : d.processors = start.processors
  count_le : count ≤ (emitted.filter Event.isAlert).length
  pending : d.pending = (emitted.filter Event.isAlert).drop count
  alerts : ∀ position < start.processors.length,
    (heard d.journal position).filter Event.isAlert = (emitted.filter Event.isAlert).take count
  others : ∀ position < start.processors.length,
    (heard d.journal position).filter (fun event => !event.isAlert) =
      emitted.filter fun event => !event.isAlert

section Balances

variable {emitted : List Event} {count : Nat} {start : Dispatcher}

/-- What was taken is added to the account: its alerts to those that wait. -/
lemma Balances.take {events : List Event} (h : Balances emitted count start d)
    (htakes : Takes events d d') : Balances (emitted ++ events) count start d' where
  strict := htakes.strict.trans h.strict
  processors := htakes.processors.trans h.processors
  count_le := by
    rw [List.filter_append, List.length_append]
    exact Nat.le_trans h.count_le (Nat.le_add_right _ _)
  pending := by
    rw [htakes.pending, h.pending, List.filter_append, List.drop_append_of_le_length h.count_le]
  alerts position hposition := by
    -- what is heard of as it is taken is no alert
    have hnone : (events.filter fun event => !event.isAlert).filter Event.isAlert = [] := by
      simp [List.filter_filter]
    rw [htakes.journal position (h.processors ▸ hposition), List.filter_append,
      h.alerts position hposition, hnone, List.append_nil, List.filter_append,
      List.take_append_of_le_length h.count_le]
  others position hposition := by
    rw [htakes.journal position (h.processors ▸ hposition), List.filter_append,
      h.others position hposition, List.filter_append, List.filter_filter]
    simp only [Bool.and_self]

/-- When the alerts that wait are delivered, all alerts were delivered. -/
lemma Balances.flush (h : Balances emitted count start d) (hhears : Hears d.pending d d')
    (hpending : d'.pending = []) :
    Balances emitted (count + d.pending.length) start d' := by
  have hlength : count + d.pending.length = (emitted.filter Event.isAlert).length := by
    rw [h.pending, List.length_drop]
    have := h.count_le
    omega
  have halerts : ∀ event ∈ d.pending, event.isAlert = true := by
    rw [h.pending]
    exact fun event hevent => (List.mem_filter.1 (List.mem_of_mem_drop hevent)).2
  rw [hlength]
  refine ⟨hhears.strict.trans h.strict, hhears.processors.trans h.processors, Nat.le_refl _, ?_,
    fun position hposition => ?_, fun position hposition => ?_⟩
  · rw [hpending, List.drop_length]
  · rw [hhears.journal position (h.processors ▸ hposition), List.filter_append,
      h.alerts position hposition, List.filter_eq_self.2 halerts, h.pending, List.take_append_drop,
      List.take_length]
  · have hnone : (d.pending.filter fun event => !event.isAlert) = [] :=
      List.filter_eq_nil_iff.2 fun event hevent => by simp [halerts event hevent]
    rw [hhears.journal position (h.processors ▸ hposition), List.filter_append,
      h.others position hposition, hnone, List.append_nil]

/-- A use that comes to what it has to keeps the balance. -/
lemma Balances.serve {use : Use} {answer : Answer} (h : Balances emitted count start d)
    (hserves : d.Serves use (answer, d')) :
    Balances (emitted ++ use.emitted) (count + answer.delivered) start d' := by
  cases use with
  | scope view element =>
    cases hserves
    simpa [Use.emitted, Answer.delivered] using h
  | emit view event =>
    obtain ⟨rfl, htakes⟩ := hserves
    exact h.take htakes
  | flush view =>
    obtain ⟨rfl, hhears, hpending⟩ := hserves
    simpa [Use.emitted, Answer.delivered] using h.flush hhears hpending

/-- **The balance holds after any uses**, unless the dispatcher is strict. -/
lemma balances_serveAll (hstart : start.strict = false) (uses : List Use)
    (h : Balances emitted count start d) :
    Balances (emitted ++ uses.flatMap Use.emitted)
      (count + ((serveAll uses d).1.map Answer.delivered).sum) start (serveAll uses d).2 := by
  induction uses generalizing emitted count d with
  | nil => simpa [serveAll] using h
  | cons use rest ih =>
    have hnext := ih (h.serve (serve_serves (h.strict.trans hstart) use))
    rw [List.append_assoc, Nat.add_assoc] at hnext
    exact hnext

end Balances

/-! ## What processors did -/

/-- What the processor at a position did, in order. -/
def deeds (d : Dispatcher) (position : Nat) : List Reaction :=
  d.journal.filterMap fun call => if call.position = position then d.reaction call else none

/-- The journal tells of events only, and no recorder refused any. -/
def OnlyEvents (processors : List Processor) (journal : List Call) : Prop :=
  ∀ call ∈ journal, (∃ event, call.occasion = .event event) ∧
    (processors[call.position]? = some .recorder → call.refusal = none)

/-- A delivery adds events to the journal. -/
lemma onlyEvents_deliver (h : OnlyEvents d.processors d.journal) (event : Event) :
    OnlyEvents d.processors (d.deliver event).2.journal ∧
      (d.deliver event).2.processors = d.processors := by
  obtain ⟨calls, hcalls, heq⟩ := exists_calls_of_deliver event d
  rw [heq]
  refine ⟨fun call hcall => ?_, rfl⟩
  rcases List.mem_append.1 hcall with hcall | hcall
  · exact h call hcall
  · obtain ⟨hoccasion, processor, hprocessor, hanswer⟩ := exists_of_mem_round (hcalls hcall)
    refine ⟨⟨event, hoccasion⟩, fun hrecorder => ?_⟩
    cases hprocessor.symm.trans hrecorder
    exact hanswer

/-- Deliveries add events to the journal. -/
lemma onlyEvents_deliverAll (events : List Event) (h : OnlyEvents d.processors d.journal) :
    OnlyEvents d.processors (deliverAll events d).2.journal ∧
      (deliverAll events d).2.processors = d.processors := by
  induction events generalizing d with
  | nil => exact ⟨h, rfl⟩
  | cons event rest ih =>
    obtain ⟨hfirst, hsame⟩ := onlyEvents_deliver h event
    rw [deliverAll]
    rcases hdeliver : d.deliver event with ⟨_ | fault, d₁⟩ <;> rw [hdeliver] at hfirst hsame
    · obtain ⟨hrest, hprocessors⟩ := ih (d := d₁) (hsame ▸ hfirst)
      exact ⟨hsame ▸ hrest, hprocessors.trans hsame⟩
    · exact ⟨hfirst, hsame⟩

/-- Uses add events to the journal. -/
lemma onlyEvents_serve (h : OnlyEvents d.processors d.journal) (use : Use) :
    OnlyEvents d.processors (d.serve use).2.journal ∧
      (d.serve use).2.processors = d.processors := by
  cases use with
  | scope view element => exact ⟨h, rfl⟩
  | emit view event =>
    simp only [serve, emit]
    split
    · exact ⟨h, rfl⟩
    · split
      · exact ⟨h, rfl⟩
      · exact onlyEvents_deliver h _
  | flush view =>
    have hall := onlyEvents_deliverAll (d := { d with pending := [] }) d.pending h
    simp only [serve, flush]
    split <;> rename_i hdeliver <;> rw [hdeliver] at hall <;> exact hall

/-- Any number of uses add events to the journal. -/
lemma onlyEvents_serveAll (h : OnlyEvents d.processors d.journal) (uses : List Use) :
    OnlyEvents d.processors (serveAll uses d).2.journal ∧
      (serveAll uses d).2.processors = d.processors := by
  induction uses generalizing d with
  | nil => exact ⟨h, rfl⟩
  | cons use rest ih =>
    obtain ⟨hfirst, hsame⟩ := onlyEvents_serve h use
    obtain ⟨hrest, hsame'⟩ := ih (d := (d.serve use).2) (hsame ▸ hfirst)
    exact ⟨hsame ▸ hrest, hsame'.trans hsame⟩

/-- A recorder keeps every event that it hears of. -/
lemma deeds_recorder {position : Nat} (h : OnlyEvents d.processors d.journal)
    (hrecorder : d.processors[position]? = some .recorder) :
    d.deeds position = (heard d.journal position).map .recorded := by
  rw [deeds, heard, List.map_filterMap]
  refine List.filterMap_congr fun call hcall => ?_
  obtain ⟨⟨event, hevent⟩, hrefusal⟩ := h call hcall
  by_cases hposition : call.position = position
  · subst hposition
    simp only [reaction, hrefusal hrecorder, hrecorder, hevent, if_true]
    rfl
  · simp only [hevent, hposition, if_false, Option.map_none]

/-! ## All uses -/

/-- **No alert is lost, duplicated or reordered**, whatever a dispatcher that is not strict is used
for through whichever of its views, and whatever its processors refuse.

After any uses, the alerts that were emitted, in order and each under its own element or else under
that of its view, are as many as the flushes report to have delivered, of which every processor has
heard, followed by those that wait; and every processor has heard of the other events in the order
in which they were emitted. The next use comes to what it has to: an event that is no alert is heard
of at once, an alert is added to those that wait, and a flush delivers these, reports their number
and leaves none. A recorder has kept each of the events of which processors have heard once. -/
theorem alerts_conserved (processors : List Processor) (uses : List Use) :
    let (answers, d) := serveAll uses (.new processors false)
    let emitted := uses.flatMap Use.emitted
    let alerts := emitted.filter Event.isAlert
    let count := (answers.map Answer.delivered).sum
    (count ≤ alerts.length ∧ d.pending = alerts.drop count) ∧
      (∀ position < processors.length,
        (heard d.journal position).filter Event.isAlert = alerts.take count ∧
          (heard d.journal position).filter (fun event => !event.isAlert) =
            emitted.filter fun event => !event.isAlert) ∧
      (∀ use, d.Serves use (d.serve use)) ∧
      ∀ position, processors[position]? = some .recorder →
        d.deeds position = (heard d.journal position).map .recorded := by
  have hnew : Balances [] 0 (.new processors false) (.new processors false) :=
    ⟨rfl, rfl, Nat.le_refl 0, rfl, fun _ _ => rfl, fun _ _ => rfl⟩
  have hbalances := balances_serveAll rfl uses hnew
  obtain ⟨hevents, hprocessors⟩ :=
    onlyEvents_serveAll (d := .new processors false) (fun _ hcall => nomatch hcall) uses
  rw [List.nil_append, Nat.zero_add] at hbalances
  refine ⟨⟨hbalances.count_le, hbalances.pending⟩, fun position hposition =>
    ⟨hbalances.alerts position hposition, hbalances.others position hposition⟩,
    serve_serves hbalances.strict, fun position hrecorder => ?_⟩
  rw [← hprocessors] at hevents
  exact deeds_recorder hevents (hprocessors ▸ hrecorder)

end Dispatcher

end DesignGraph
