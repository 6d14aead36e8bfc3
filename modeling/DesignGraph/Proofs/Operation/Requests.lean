import DesignGraph.Operation.Basic
import Mathlib.Tactic.Common
/-!
# What programs ask for

A kind's program makes requests of few sorts: it reads the sockets that the catalog lists for the
kind, samples only as a random node, looks at the context only as a node for that part of the
context, and looks at a trigger or fires only as an action, in which case its result is null.

## Main definitions

* `DesignGraph.Program.Within` — bounds on the requests and the results of a program.
* `DesignGraph.Kind.MayAsk` — the requests of a kind.
* `DesignGraph.Request.AsksForPage` — a request that asks for no page that counts as false.
* `DesignGraph.Node.MayNavigate` — the pages that a node may ask for.

## Main results

* `DesignGraph.Node.program_within` — the program of a node stays within the requests of its kind.
* `DesignGraph.Node.program_mayNavigate` — only the page is asked for that the literal of a
  navigating node names, if it counts as true.
-/

set_option relaxedAutoImplicit false
set_option autoImplicit false

namespace DesignGraph

namespace Program

variable {α β : Type} {P P' : Request → Prop}

/-- Every request that a program can make satisfies `P`, and every result that it can have
satisfies `Q`. -/
def Within (P : Request → Prop) (Q : α → Prop) : Program α → Prop
  | .done a => Q a
  | .fail _ => True
  | .ask request next => P request ∧ ∀ answer, (next answer).Within P Q

@[simp] lemma within_done {Q : α → Prop} {a : α} : (done a).Within P Q ↔ Q a :=
  Iff.rfl

@[simp] lemma within_pure {Q : α → Prop} {a : α} :
    (pure a : Program α).Within P Q ↔ Q a :=
  Iff.rfl

/-- A program goes on within bounds if it goes on so from every result of its first part. -/
@[simp] lemma within_bind {Q : β → Prop} {program : Program α} {f : α → Program β} :
    (program >>= f).Within P Q ↔ program.Within P fun a => (f a).Within P Q := by
  change (program.bind f).Within P Q ↔ _
  induction program with
  | done a => rfl
  | fail fault => rfl
  | ask request next ih => simp only [bind, Within, ih]

@[simp] lemma within_request {r : Request} {Q : r.Answer → Prop} :
    (request r).Within P Q ↔ P r ∧ ∀ answer, Q answer :=
  Iff.rfl

@[simp] lemma within_ofExcept {Q : α → Prop} {e : Except Fault α} :
    (ofExcept e).Within P Q ↔ ∀ a, e = .ok a → Q a := by
  cases e <;> simp [ofExcept, Within]

@[simp] lemma within_fail {Q : α → Prop} {fault : Fault} :
    (Program.fail fault : Program α).Within P Q ↔ True :=
  Iff.rfl

/-- A conditional program stays within bounds if the branch that is taken does. -/
@[simp] lemma within_ite {c : Prop} [Decidable c] {Q : α → Prop} {a b : Program α} :
    (if c then a else b).Within P Q ↔ (c → a.Within P Q) ∧ (¬c → b.Within P Q) := by
  by_cases h : c <;> simp [h]

/-- Wider bounds hold as well. -/
lemma Within.mono {Q Q' : α → Prop} {program : Program α} (h : program.Within P Q)
    (hP : ∀ request, P request → P' request) (hQ : ∀ a, Q a → Q' a) : program.Within P' Q' := by
  induction program with
  | done a => exact hQ a h
  | fail fault => trivial
  | ask request next ih => exact ⟨hP request h.1, fun answer => ih answer (h.2 answer)⟩

end Program

/-- The requests that nodes of a kind make. -/
def Kind.MayAsk (kind : Kind) : Request → Prop
  | .read socket => socket ∈ kind.sockets
  | .isWired socket => kind = .animation ∧ socket ∈ kind.sockets
  | .hovered => kind = .hover
  | .clicked => kind = .click
  | .time => kind = .timer
  | .sample => kind = .random
  | .edge _ | .fire _ => kind.isAction = true

namespace Operation

open Program

variable {P : Request → Prop}

@[simp] lemma within_signal {socket : String} {Q : Signal → Prop} :
    (signal socket).Within P Q ↔ P (.read socket) ∧ ∀ s, Q s :=
  Iff.rfl

@[simp] lemma within_value {socket : String} {Q : Value → Prop} :
    (value socket).Within P Q ↔ P (.read socket) ∧ ∀ s : Signal, Q s.value :=
  Iff.rfl

/-- A divisor reads its socket and nothing else. -/
lemma within_divisor {socket : String} {Q : Float → Prop} (hread : P (.read socket))
    (hQ : ∀ x, Q x) : (divisor socket).Within P Q := by
  simp only [divisor, within_bind, within_value]
  refine ⟨hread, fun s => ?_⟩
  split
  · exact hQ 1
  · exact within_ofExcept.2 fun x _ => hQ x

/-- A division reads its two operands and nothing else. -/
lemma within_divideBy {f : Float → Float → Float} (ha : P (.read "in-a"))
    (hb : P (.read "in-b")) : (divideBy f).Within P fun _ => True := by
  simp only [divideBy, within_bind]
  exact within_divisor hb fun _ => by simp [operand, ha]

/-- A timer reads the time and its speed and nothing else. -/
lemma within_timer (ht : P .time) (hs : P (.read "in-speed")) :
    timer.Within P fun _ => True := by
  simp only [timer, operand, within_bind, within_value, within_ofExcept]
  refine ⟨ht, fun time => ⟨hs, fun s speed _ => ?_⟩⟩
  cases time <;> simp

/-- An animation reads its three sockets, asks whether it has a trigger, and nothing else. -/
lemma within_animation {literal : Value} (hw : P (.isWired "in-trigger"))
    (ht : P (.read "in-trigger")) (hd : P (.read "in-duration")) (hl : P (.read "in-delay")) :
    (animation literal).Within P fun _ => True := by
  simp only [animation, within_bind]
  refine ⟨hw, fun wired => ?_⟩
  cases wired <;> simp [flag, operand, ht, hd, hl]

/-- What an action does with its trigger stays within bounds if a look does and what is fired with
a payload that counts as true; its result is null. -/
lemma within_fireOn {Q : Value → Prop} {trigger payload : Value} {action : Program Action}
    (hedge : P (.edge trigger))
    (hfire : Coercion.truthy payload = .ok true → action.Within P fun a => P (.fire a))
    (hnull : Q .null) : (fireOn trigger payload action).Within P Q := by
  have hlast (htruthy : Coercion.truthy payload = .ok true) :
      (action >>= fun a => request (.fire a)).Within P fun _ => Q .null := by
    rw [within_bind]
    exact (hfire htruthy).mono (fun _ h => h) fun a ha => ⟨ha, fun _ => hnull⟩
  simp only [fireOn, within_bind]
  refine ⟨hedge, fun rises => ?_⟩
  simpa [hnull] using fun _ htruthy => within_bind.1 (hlast htruthy)

/-- **The program of a kind stays within the requests of that kind**, and the result of an action
is null. -/
theorem ofKind_within (kind : Kind) (node : Node) :
    (ofKind kind node).Within kind.MayAsk fun o => kind.isAction = true → o = .made .null := by
  cases kind with
  | divide | modulo =>
    simp only [ofKind, making, within_bind]
    exact (within_divideBy (by simp [Kind.MayAsk, Kind.sockets])
      (by simp [Kind.MayAsk, Kind.sockets])).mono (fun _ h => h) fun _ _ h => absurd h (by decide)
  | timer =>
    simp only [ofKind, making, within_bind]
    exact (within_timer (P := Kind.timer.MayAsk) rfl (by simp [Kind.MayAsk, Kind.sockets])).mono
      (fun _ h => h) fun _ _ h => absurd h (by decide)
  | animation =>
    simp only [ofKind, making, within_bind]
    exact (within_animation (by simp [Kind.MayAsk, Kind.sockets])
      (by simp [Kind.MayAsk, Kind.sockets]) (by simp [Kind.MayAsk, Kind.sockets])
      (by simp [Kind.MayAsk, Kind.sockets])).mono (fun _ h => h) fun _ _ h => absurd h (by decide)
  | navigate =>
    simp only [ofKind, making, navigate, within_bind, within_value]
    refine ⟨by simp [Kind.MayAsk, Kind.sockets], fun s => ?_⟩
    exact within_fireOn rfl (fun _ => rfl) (by simp)
  | link =>
    simp only [ofKind, making, link, within_bind, within_value, within_ofExcept]
    refine ⟨by simp [Kind.MayAsk, Kind.sockets], fun s => ⟨by simp [Kind.MayAsk, Kind.sockets],
      fun _ url _ => ⟨by simp [Kind.MayAsk, Kind.sockets], fun _ => ?_⟩⟩⟩
    exact within_fireOn rfl (fun _ => by simp [Kind.MayAsk, Kind.isAction, Kind.category])
      (by simp)
  | alert =>
    simp only [ofKind, making, alert, within_bind, within_value, within_ofExcept]
    refine ⟨by simp [Kind.MayAsk, Kind.sockets], fun s => ⟨by simp [Kind.MayAsk, Kind.sockets],
      fun _ message _ => ?_⟩⟩
    exact within_fireOn rfl (fun _ => rfl) (by simp)
  | random | hover | click =>
    simp only [ofKind, making, within_bind]
    exact ⟨rfl, fun _ h => absurd h (by decide)⟩
  | _ =>
    simp [ofKind, making, unary, binary, compare, equality, operand, plainNumber, flag, words,
      style, transition, merge, choose, Kind.MayAsk, Kind.sockets, Kind.isAction, Kind.category]

end Operation

/-- A request that asks for no page that counts as false. -/
def Request.AsksForPage (request : Request) : Prop :=
  ∀ page, request = .fire (.navigate page) → Coercion.truthy page = .ok true

namespace Node

/-- **The program of a node stays within the requests of its kind**, and the result of an action is
null; a node of unknown kind makes no request. -/
theorem program_within (node : Node) :
    node.program.Within (fun request => ∃ kind, node.kind? = some kind ∧ kind.MayAsk request)
      fun o => node.isAction = true → o = .made .null := by
  unfold program
  rcases hk : node.kind? with _ | kind
  · simp [isAction, hk]
  · refine (Operation.ofKind_within kind node).mono (fun _ h => ⟨kind, rfl, h⟩) fun o h ha => ?_
    exact h (by simpa [isAction, hk] using ha)

/-- A request that, if it asks for a page, is made by a node that navigates and asks for the page
that its literal names, which counts as true. -/
def MayNavigate (node : Node) (request : Request) : Prop :=
  ∀ page, request = .fire (.navigate page) →
    node.kind? = some .navigate ∧ page = node.literal ∧ Coercion.truthy page = .ok true

/-- **The program of a node asks for no page but the one that its literal names**, only as a node
that navigates, and only if the page counts as true. -/
theorem program_mayNavigate (node : Node) : node.program.Within node.MayNavigate fun _ => True := by
  unfold program
  rcases hk : node.kind? with _ | kind
  · trivial
  by_cases hact : kind.isAction = true
  · cases kind with
    | navigate =>
      simp only [Operation.ofKind, Operation.making, Operation.navigate, Program.within_bind,
        Operation.within_value]
      refine ⟨nofun, fun s => Operation.within_fireOn nofun (fun htruthy => ?_) trivial⟩
      rintro page ⟨⟩
      exact ⟨hk, rfl, htruthy⟩
    | link =>
      simp only [Operation.ofKind, Operation.making, Operation.link, Program.within_bind,
        Operation.within_value, Program.within_ofExcept]
      refine ⟨nofun, fun s => ⟨nofun, fun _ url _ => ⟨nofun, fun _ => ?_⟩⟩⟩
      exact Operation.within_fireOn nofun (fun _ => by simp [MayNavigate]) trivial
    | alert =>
      simp only [Operation.ofKind, Operation.making, Operation.alert, Program.within_bind,
        Operation.within_value, Program.within_ofExcept]
      refine ⟨nofun, fun s => ⟨nofun, fun _ message _ => ?_⟩⟩
      exact Operation.within_fireOn nofun (fun _ => nofun) trivial
    | _ => cases hact
  · refine (Operation.ofKind_within kind node).mono (fun request hask => ?_) fun _ _ => trivial
    rintro page rfl
    exact absurd hask hact

/-- **The program of a node asks only for pages that count as true.** -/
theorem program_asksForPage (node : Node) :
    node.program.Within Request.AsksForPage fun _ => True :=
  node.program_mayNavigate.mono (fun _ hask page hpage => (hask page hpage).2.2) fun _ h => h

end Node

end DesignGraph
