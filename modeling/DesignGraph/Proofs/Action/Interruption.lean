import DesignGraph.Proofs.Live.Deliveries
/-!
# Interrupted flushes

A strict dispatcher stops delivering as soon as a processor refuses. A flush takes all alerts that
wait before it delivers the first of them, so when it is interrupted, the alerts behind the one that
was refused are gone: nobody has heard of them, and nobody will, however often the dispatcher is
flushed again. Nothing is lost only if the alert that was refused was the last one.

## Main definitions

* `DesignGraph.Dispatcher.Interrupted` — how far deliveries got.

## Main results

* `DesignGraph.Dispatcher.deliverAll_strict` — strict deliveries are complete or interrupted.
* `DesignGraph.Dispatcher.interrupted_flush_drops_rest` — what becomes of a strict flush.
* `DesignGraph.Dispatcher.second_bell_lost` — an alert of which nobody ever hears.
-/

set_option relaxedAutoImplicit false
set_option autoImplicit false

namespace DesignGraph

namespace Dispatcher

variable {d d' d₁ : Dispatcher} {events : List Event}

/-! ## Strict deliveries -/

/-- Deliveries were interrupted by the processor at `position`, which refused `event`: everybody has
heard of the events before it, the processors up to that one of the event, and nobody of the events
behind it. -/
structure Interrupted (d d' : Dispatcher) (earlier : List Event) (event : Event) (position : Nat)
    (message : String) : Prop where
  refused : ∃ processor, d.processors[position]? = some processor ∧
    processor.refusal (heard d.journal position ++ earlier) event = some message
  journal : ∀ other < d.processors.length, heard d'.journal other =
    heard d.journal other ++ earlier ++ if other ≤ position then [event] else []

/-- What was delivered before is delivered. -/
lemma Hears.interrupted {earlier : List Event} {event : Event} {position : Nat} {message : String}
    (h : Hears events d d₁) (h₁ : Interrupted d₁ d' earlier event position message) :
    Interrupted d d' (events ++ earlier) event position message := by
  obtain ⟨processor, hprocessor, hmessage⟩ := h₁.refused
  rw [h.processors] at hprocessor
  have hposition := (List.getElem?_eq_some_iff.1 hprocessor).1
  refine ⟨⟨processor, hprocessor, ?_⟩, fun other hother => ?_⟩
  · rw [← hmessage, h.journal position hposition, List.append_assoc]
  · rw [h₁.journal other (h.processors ▸ hother), h.journal other hother]
    simp only [List.append_assoc]

/-- **Strict deliveries are complete, or interrupted** by the first processor that refuses. -/
lemma deliverAll_strict (hd : d.strict = true) (events : List Event) :
    ∃ fault d', deliverAll events d = (fault, d') ∧ d'.pending = d.pending ∧
      (fault = none ∧ Hears events d d' ∨
        ∃ earlier event later position message, events = earlier ++ event :: later ∧
          fault = some (.refused message) ∧ Interrupted d d' earlier event position message) := by
  induction events generalizing d with
  | nil => exact ⟨none, d, rfl, rfl, .inl ⟨rfl, .refl d⟩⟩
  | cons event rest ih =>
    rw [deliverAll, deliver_strict hd]
    rcases hrefusal : firstRefusal (d.round (.event event)) with _ | message
    · -- all have accepted the event, and deliveries go on
      rw [untilRefusal_of_firstRefusal_eq_none hrefusal]
      have hheard : Hears [event] d (d.after (d.round (.event event))) := callAll_hears [event] d
      obtain ⟨fault, d', hall, hpending, hrest⟩ := ih (d := d.after (d.round (.event event))) hd
      refine ⟨fault, d', hall, hpending, ?_⟩
      rcases hrest with ⟨hnone, hhears⟩ |
        ⟨earlier, other, later, position, message, rfl, hfault, hinterrupted⟩
      · exact .inl ⟨hnone, hheard.trans hhears⟩
      · exact .inr ⟨event :: earlier, other, later, position, message, rfl, hfault,
          hheard.interrupted hinterrupted⟩
    · obtain ⟨position, processor, hprocessor, hmessage, hreached⟩ := untilRefusal_round hrefusal
      refine ⟨some (.refused message), d.after (untilRefusal (d.round (.event event))), rfl, rfl,
        .inr ⟨[], event, rest, position, message, rfl, rfl, ⟨processor, hprocessor, ?_⟩,
          fun other hother => ?_⟩⟩
      · rw [List.append_nil, hmessage]
      · rw [journal_after, heard_append, hreached other hother, List.append_nil]

/-! ## Strict flushes -/

/-- Nothing comes of a flush when nothing waits. -/
lemma flush_of_pending_eq_nil (h : d.pending = []) : d.flush = (.ok 0, d) := by
  obtain ⟨strict, processors, pending, journal⟩ := d
  cases h
  rfl

/-- **An interrupted flush drops the rest.** Let a strict dispatcher be flushed, whatever waits and
whoever hears of it. Then nothing waits afterwards, and flushing again delivers nothing.

Either every processor has heard of all that waited, in order, and its number is reported. Or an
alert was refused, and the refusal is reported: every processor has heard of the alerts before it,
those up to the one that refused have heard of the alert, and nobody has heard of the later ones,
which wait on only if there are none. -/
theorem interrupted_flush_drops_rest (processors : List Processor) (pending : List Event)
    (journal : List Call) :
    let d : Dispatcher := ⟨true, processors, pending, journal⟩
    let (result, d') := d.flush
    d'.pending = [] ∧ d'.flush = (.ok 0, d') ∧
      (result = .ok pending.length ∧ d.Hears pending d' ∨
        ∃ earlier alert later position message, pending = earlier ++ alert :: later ∧
          result = .error (.refused message) ∧ Interrupted d d' earlier alert position message ∧
          (d'.pending = later ↔ later = [])) := by
  intro d
  obtain ⟨fault, d', hall, hpending, hdelivered⟩ :=
    deliverAll_strict (d := { d with pending := [] }) rfl pending
  have hnothing : d'.flush = (.ok 0, d') := flush_of_pending_eq_nil hpending
  rcases hdelivered with ⟨rfl, hhears⟩ |
    ⟨earlier, alert, later, position, message, hsplit, rfl, hinterrupted⟩
  · have hflush : d.flush = (.ok pending.length, d') := by
      rw [flush, hall]
    rw [hflush]
    exact ⟨hpending, hnothing, .inl ⟨rfl, hhears.strict, hhears.processors, hhears.journal⟩⟩
  · have hflush : d.flush = (.error (.refused message), d') := by
      rw [flush, hall]
    rw [hflush]
    refine ⟨hpending, hnothing, .inr ⟨earlier, alert, later, position, message, hsplit, rfl,
      ⟨hinterrupted.refused, hinterrupted.journal⟩, ?_⟩⟩
    rw [hpending]
    exact eq_comm

/-- An alert of a bell. -/
def bell (message : String) : Event :=
  .alert ⟨.str "bell", .null, .null⟩ (.str message)

/-- A processor that cannot stand alerts. -/
def nervous : Processor :=
  { Processor.silent with
    refusal := fun _ event => if event.isAlert then some "too loud" else none }

/-- Two bells have rung. The first one is refused by the last processor, and the second one, of
which nobody has heard, waits no longer: flushing once more delivers nothing. -/
theorem second_bell_lost :
    let d : Dispatcher := ⟨true, [.recorder, nervous], [bell "first", bell "second"], []⟩
    let (result, d') := d.flush
    result = .error (.refused "too loud") ∧
      (∀ position < 2, heard d'.journal position = [bell "first"]) ∧
      d'.pending ≠ [bell "second"] ∧ d'.flush.1 = .ok 0 := by
  decide

end Dispatcher

end DesignGraph
