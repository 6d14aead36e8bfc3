import DesignGraph.Operation.Basic
import Mathlib.Tactic.Common
/-!
# What programs fail of

Nodes meet values of every kind on their sockets, and nearly all of them coerce to something. Where
a number is needed there is one exception: an integer that would round beyond the largest double,
given as such or written after a base marker. No program fails of anything else, as long as the time
is a number, whatever the kinds of values on its sockets.

## Main definitions

* `DesignGraph.Coercion.IsTooLarge` — a value that stands for a number beyond the doubles.
* `DesignGraph.TooLargeIn` — the fault of a program that meets such a value.
* `DesignGraph.Program.FailsOnly` — bounds on the faults and the results of a program.

## Main results

* `DesignGraph.Coercion.tooLarge_of_toNumber`, `DesignGraph.Coercion.tooLarge_of_truthy`,
  `DesignGraph.Coercion.tooLarge_of_looseEquals` — coercions fail of values that are too large.
* `DesignGraph.Node.program_failsOnly` — the program of a node fails of nothing else.
-/

set_option relaxedAutoImplicit false
set_option autoImplicit false

namespace DesignGraph

/-! ## Coercions -/

namespace Coercion

/-- A whole number that would round beyond the largest double. -/
def ExceedsDoubles (n : Nat) : Prop :=
  Double.infinityBits ≤ Double.nearestBits n 1

/-- A text that stands for such a number: a base marker and digits, blanks at the ends aside. -/
def IsHugeNumeral (text : String) : Prop :=
  ∃ base ds n, splitRadix? (trimBlanks text.toList) = some (base, ds) ∧
    radixNumber? base (dropSecondMarker base ds) = some n ∧ ExceedsDoubles n

/-- A value that stands for a number beyond the largest double: an integer, a text, or a list by its
text. -/
def IsTooLarge : Value → Prop
  | .int i => ExceedsDoubles i.natAbs
  | .str s => IsHugeNumeral s
  | .list items => IsHugeNumeral (toText (.list items))
  | _ => False

variable {f : Fault} {v : Value}

/-- Integers have no double only beyond the range. -/
lemma exceedsDoubles_of_ofInt {i : Int} (h : Double.ofInt i = .error f) :
    f = .outOfRange ∧ ExceedsDoubles i.natAbs := by
  rw [Double.ofInt] at h
  split_ifs at h with hrange
  cases h
  exact ⟨rfl, Nat.le_of_not_lt hrange⟩

/-- Texts have no number only if they are huge numerals. -/
lemma isHugeNumeral_of_textToNumber {s : String} (h : textToNumber s = .error f) :
    f = .outOfRange ∧ IsHugeNumeral s := by
  rw [textToNumber] at h
  split_ifs at h
  rcases hsplit : splitRadix? (trimBlanks s.toList) with _ | ⟨base, ds⟩
  · rw [hsplit] at h
    dsimp only at h
    split at h <;> cases h
  · rw [hsplit] at h
    dsimp only at h
    rcases hnumber : radixNumber? base (dropSecondMarker base ds) with _ | n
    · rw [hnumber] at h
      cases h
    · rw [hnumber] at h
      obtain ⟨rfl, hexceeds⟩ := exceedsDoubles_of_ofInt h
      exact ⟨rfl, base, ds, n, hsplit, hnumber, hexceeds⟩

/-- A list of one item counts as the text of the list. -/
lemma toNumber_singleton (item : Value) :
    toNumber (.list [item]) = textToNumber (toText (.list [item])) := by
  by_cases hitem : item = .null
  · subst hitem
    rfl
  · have hitems : itemTexts [item] = [toText item] := by
      cases item <;> first | exact absurd rfl hitem | rfl
    have htext : toText (.list [item]) = toText item := by
      rw [toText, hitems]
      rfl
    rw [htext]
    cases item <;> first | exact absurd rfl hitem | rfl

/-- **Values have no number only if they are too large.** -/
lemma tooLarge_of_toNumber (h : toNumber v = .error f) : f = .outOfRange ∧ IsTooLarge v := by
  match v with
  | .null | .bool _ | .float _ | .nan _ | .obj _ | .list [] => cases h
  | .int i => exact exceedsDoubles_of_ofInt h
  | .str s => exact isHugeNumeral_of_textToNumber h
  | .list [item] =>
    rw [toNumber_singleton] at h
    exact isHugeNumeral_of_textToNumber h
  | .list (_ :: _ :: _) =>
    simp only [toNumber] at h
    cases h

/-- **Values have no truth value only if they are too large.** -/
lemma tooLarge_of_truthy (h : truthy v = .error f) : f = .outOfRange ∧ IsTooLarge v := by
  cases v with
  | int i =>
    rw [truthy] at h
    split_ifs at h
    rcases hdouble : Double.ofInt i with fault | x
    · rw [hdouble] at h
      cases h
      exact exceedsDoubles_of_ofInt hdouble
    · rw [hdouble] at h
      cases h
  | _ => cases h

/-- A default is chosen unless the value is too large. -/
lemma tooLarge_of_orDefault {d : Value} (h : orDefault v d = .error f) :
    f = .outOfRange ∧ IsTooLarge v := by
  rw [orDefault] at h
  rcases htruthy : truthy v with fault | b
  · rw [htruthy] at h
    cases h
    exact tooLarge_of_truthy htruthy
  · rw [htruthy] at h
    cases h

/-- What comes of a value and its default is one of the two. -/
lemma eq_or_eq_of_orDefault {d w : Value} (h : orDefault v d = .ok w) : w = v ∨ w = d := by
  rw [orDefault] at h
  rcases htruthy : truthy v with fault | b
  · rw [htruthy] at h
    cases h
  · rw [htruthy] at h
    cases h
    cases b
    · exact .inr rfl
    · exact .inl rfl

/-- A value with a number as its default has no number only if it is too large. -/
lemma tooLarge_of_numberOr {x : Float} (h : numberOr v (.float x) = .error f) :
    f = .outOfRange ∧ IsTooLarge v := by
  rw [numberOr] at h
  rcases hdefault : orDefault v (.float x) with fault | w
  · rw [hdefault] at h
    cases h
    exact tooLarge_of_orDefault hdefault
  · rw [hdefault] at h
    have hnumber : toNumber w = .error f := h
    rcases eq_or_eq_of_orDefault hdefault with rfl | rfl
    · exact tooLarge_of_toNumber hnumber
    · cases hnumber

/-- The form in which a value is compared is too large only if the value is. -/
lemma IsTooLarge.of_compared (h : IsTooLarge (objectAsText (boolAsNumber v))) : IsTooLarge v := by
  cases v with
  | obj fields =>
    change IsHugeNumeral "[object Object]" at h
    obtain ⟨base, ds, n, hsplit, -⟩ := h
    cases hsplit
  | _ => exact h

/-- **Values do not compare only if one of them is too large.** -/
lemma tooLarge_of_looseEquals {same : Bool} {a b : Value} (h : looseEquals same a b = .error f) :
    f = .outOfRange ∧ (IsTooLarge a ∨ IsTooLarge b) := by
  have hscalar {x y : Value} (h : scalarEquals x y = .error f) :
      f = .outOfRange ∧ (IsTooLarge x ∨ IsTooLarge y) := by
    unfold scalarEquals at h
    split at h
    · cases h
    · rcases hx : toNumber x with fault | m
      · rw [hx] at h
        cases h
        exact (tooLarge_of_toNumber hx).imp_right .inl
      · rw [hx] at h
        rcases hy : toNumber y with fault | n
        · rw [hy] at h
          cases h
          exact (tooLarge_of_toNumber hy).imp_right .inr
        · rw [hy] at h
          cases h
  unfold looseEquals at h
  split at h
  case h_1 | h_2 | h_3 | h_4 => cases h
  case h_5 =>
    dsimp only at h
    split_ifs at h
    exact (hscalar h).imp_right (Or.imp IsTooLarge.of_compared IsTooLarge.of_compared)

end Coercion

open Coercion

/-- The fault of meeting one of the given values that is too large. -/
def TooLargeIn (V : Value → Prop) (f : Fault) : Prop :=
  f = .outOfRange ∧ ∃ v, V v ∧ IsTooLarge v

/-- Among the given values, a value that is too large makes for such a fault. -/
lemma TooLargeIn.of_value {V : Value → Prop} {v : Value} {f : Fault} (hv : V v)
    (h : f = .outOfRange ∧ IsTooLarge v) : TooLargeIn V f :=
  ⟨h.1, v, hv, h.2⟩

/-! ## Programs -/

/-- An answer brings only values among the given ones, and the time that it tells is a number. -/
def Request.Brings (V : Value → Prop) : (request : Request) → request.Answer → Prop
  | .read _, s => V s.value
  | .time, t => V t ∧ isNumber t = true
  | .isWired _, _ | .hovered, _ | .clicked, _ | .sample, _ | .edge _, _ | .fire _, _ => True

namespace Program

variable {α β : Type} {V : Value → Prop}

/-- If answers bring only values among the given ones, every fault of a program comes of one of them
that is too large, and every result satisfies `Q`. -/
def FailsOnly (V : Value → Prop) (Q : α → Prop) : Program α → Prop
  | .done a => Q a
  | .fail f => TooLargeIn V f
  | .ask request next => ∀ answer, request.Brings V answer → (next answer).FailsOnly V Q

@[simp] lemma failsOnly_done {Q : α → Prop} {a : α} : (done a).FailsOnly V Q ↔ Q a :=
  Iff.rfl

@[simp] lemma failsOnly_pure {Q : α → Prop} {a : α} :
    (pure a : Program α).FailsOnly V Q ↔ Q a :=
  Iff.rfl

/-- What a program fails of is what its first part fails of, and what is done with the results. -/
@[simp] lemma failsOnly_bind {Q : β → Prop} {program : Program α} {f : α → Program β} :
    (program >>= f).FailsOnly V Q ↔ program.FailsOnly V fun a => (f a).FailsOnly V Q := by
  change (program.bind f).FailsOnly V Q ↔ _
  induction program with
  | done a => rfl
  | fail fault => rfl
  | ask request next ih => simp only [bind, FailsOnly, ih]

@[simp] lemma failsOnly_request {r : Request} {Q : r.Answer → Prop} :
    (request r).FailsOnly V Q ↔ ∀ answer, r.Brings V answer → Q answer :=
  Iff.rfl

@[simp] lemma failsOnly_ofExcept {Q : α → Prop} {e : Except Fault α} :
    (ofExcept e).FailsOnly V Q ↔ (∀ f, e = .error f → TooLargeIn V f) ∧ ∀ a, e = .ok a → Q a := by
  cases e <;> simp [ofExcept, FailsOnly]

/-- A conditional program fails of what the branch that is taken fails of. -/
@[simp] lemma failsOnly_ite {c : Prop} [Decidable c] {Q : α → Prop} {a b : Program α} :
    (if c then a else b).FailsOnly V Q ↔ (c → a.FailsOnly V Q) ∧ (¬c → b.FailsOnly V Q) := by
  by_cases h : c <;> simp [h]

/-- What is shown of results can be weakened. -/
lemma FailsOnly.mono {Q Q' : α → Prop} {program : Program α} (h : program.FailsOnly V Q)
    (hQ : ∀ a, Q a → Q' a) : program.FailsOnly V Q' := by
  induction program with
  | done a => exact hQ a h
  | fail fault => exact h
  | ask request next ih => exact fun answer hanswer => ih answer (h answer hanswer)

end Program

namespace Operation

open Program

variable {V : Value → Prop}

@[simp] lemma failsOnly_signal {socket : String} {Q : Signal → Prop} :
    (signal socket).FailsOnly V Q ↔ ∀ s : Signal, V s.value → Q s :=
  Iff.rfl

@[simp] lemma failsOnly_value {socket : String} {Q : Value → Prop} :
    (value socket).FailsOnly V Q ↔ ∀ s : Signal, V s.value → Q s.value :=
  Iff.rfl

/-- A number on a socket, with a default, is missing only if the value is too large. -/
@[simp] lemma failsOnly_operand {socket : String} {x : Float} {Q : Float → Prop} (hQ : ∀ y, Q y) :
    (operand socket x).FailsOnly V Q := by
  simp only [operand, failsOnly_bind, failsOnly_value, failsOnly_ofExcept]
  exact fun s hs => ⟨fun f hf => .of_value hs (tooLarge_of_numberOr hf), fun y _ => hQ y⟩

/-- A number on a socket is missing only if the value is too large. -/
@[simp] lemma failsOnly_plainNumber {socket : String} {Q : Float → Prop} (hQ : ∀ y, Q y) :
    (plainNumber socket).FailsOnly V Q := by
  simp only [plainNumber, failsOnly_bind, failsOnly_value, failsOnly_ofExcept]
  exact fun s hs => ⟨fun f hf => .of_value hs (tooLarge_of_toNumber hf), fun y _ => hQ y⟩

/-- A truth value on a socket is missing only if the value is too large. -/
@[simp] lemma failsOnly_flag {socket : String} {Q : Bool → Prop} (hQ : ∀ b, Q b) :
    (flag socket).FailsOnly V Q := by
  simp only [flag, failsOnly_bind, failsOnly_value, failsOnly_ofExcept]
  exact fun s hs => ⟨fun f hf => .of_value hs (tooLarge_of_truthy hf), fun b _ => hQ b⟩

/-- A text on a socket is missing only if the value is too large. -/
@[simp] lemma failsOnly_words {socket : String} {Q : String → Prop} (hQ : ∀ t, Q t) :
    (words socket).FailsOnly V Q := by
  simp only [words, failsOnly_bind, failsOnly_value, failsOnly_ofExcept, failsOnly_pure]
  exact fun s hs => ⟨fun f hf => .of_value hs (tooLarge_of_orDefault hf), fun v _ => hQ _⟩

/-- Two signals do not compare only if one of the values is too large. -/
@[simp] lemma failsOnly_equality {Q : Bool → Prop} (hQ : ∀ b, Q b) :
    equality.FailsOnly V Q := by
  simp only [equality, failsOnly_bind, failsOnly_signal, failsOnly_ofExcept]
  refine fun a ha b hb => ⟨fun f hf => ?_, fun same _ => hQ same⟩
  obtain ⟨rfl, hlarge | hlarge⟩ := tooLarge_of_looseEquals hf
  · exact .of_value ha ⟨rfl, hlarge⟩
  · exact .of_value hb ⟨rfl, hlarge⟩

/-- A divisor is missing only if the value is too large. -/
@[simp] lemma failsOnly_divisor {socket : String} {Q : Float → Prop} (hQ : ∀ y, Q y) :
    (divisor socket).FailsOnly V Q := by
  simp only [divisor, failsOnly_bind, failsOnly_value]
  intro s hs
  split
  · exact hQ 1
  · rw [failsOnly_ofExcept]
    exact ⟨fun f hf => .of_value hs (tooLarge_of_toNumber hf), fun y _ => hQ y⟩

/-- A timer fails only of a time or a speed that is too large: the time is a number. -/
lemma failsOnly_timer {Q : Value → Prop} (hQ : ∀ v, Q v) : timer.FailsOnly V Q := by
  simp only [timer, failsOnly_bind]
  rintro time ⟨htime, hnumber⟩
  refine failsOnly_operand fun speed => ?_
  cases time with
  | int i =>
    simp only [failsOnly_bind, failsOnly_ofExcept, failsOnly_pure]
    exact ⟨fun f hf => .of_value htime (exceedsDoubles_of_ofInt hf), fun _ _ => hQ _⟩
  | float t => exact hQ _
  | nan mark => exact hQ _
  | null | bool | str | list | obj => cases hnumber

/-- An animation fails only of a name, trigger or time that is too large. -/
lemma failsOnly_animation {literal : Value} {Q : Value → Prop} (hliteral : V literal)
    (hQ : ∀ v, Q v) : (animation literal).FailsOnly V Q := by
  have hname (f : Fault) (hf : orDefault literal (.str "fadeIn") = .error f) : TooLargeIn V f :=
    .of_value hliteral (tooLarge_of_orDefault hf)
  simp only [animation, failsOnly_bind]
  intro wired _
  cases wired <;> simp +contextual [hname, hQ]

/-- A choice between a value and its default is one of the given values, or the value is too
large. -/
lemma failsOnly_orDefault {v d : Value} {Q : Value → Prop} (hv : V v) (hd : V d)
    (hQ : ∀ w, V w → Q w) : (ofExcept (orDefault v d)).FailsOnly V Q := by
  rw [failsOnly_ofExcept]
  refine ⟨fun f hf => .of_value hv (tooLarge_of_orDefault hf), fun w hw => hQ w ?_⟩
  rcases eq_or_eq_of_orDefault hw with rfl | rfl
  · exact hv
  · exact hd

/-- What an action does with its trigger fails only if the payload is too large or the action
fails. -/
lemma failsOnly_fireOn {trigger payload : Value} {action : Program Action} {Q : Value → Prop}
    (hpayload : V payload) (haction : action.FailsOnly V fun _ => True) (hQ : Q .null) :
    (fireOn trigger payload action).FailsOnly V Q := by
  simp only [fireOn, failsOnly_bind]
  intro rises _
  cases rises
  · exact hQ
  · simp only [failsOnly_done, failsOnly_ite, failsOnly_bind, failsOnly_ofExcept, failsOnly_pure]
    refine ⟨fun _ => ⟨fun f hf => .of_value hpayload (tooLarge_of_truthy hf), fun fires _ => ?_⟩,
      fun _ => hQ⟩
    exact ⟨fun _ => haction.mono fun _ _ _ _ => hQ, fun _ => hQ⟩

/-- A link fails only of an address, trigger or choice of a tab that is too large. -/
lemma failsOnly_link {literal newTab : Value} {Q : Value → Prop} (hliteral : V literal)
    (hnewTab : V newTab) (hQ : Q .null) : (link literal newTab).FailsOnly V Q := by
  simp only [link, failsOnly_bind, failsOnly_value]
  intro trigger _ address haddress
  refine failsOnly_orDefault haddress hliteral fun url hurl tab htab => ?_
  have hchosen : V (if tab.value = .null then newTab else tab.value) := by
    split_ifs
    · exact hnewTab
    · exact htab
  refine failsOnly_fireOn hurl ?_ hQ
  simp only [failsOnly_bind, failsOnly_ofExcept]
  exact ⟨fun f hf => .of_value hchosen (tooLarge_of_truthy hf), fun _ _ => trivial⟩

/-- An alert fails only of a message or a trigger that is too large. -/
lemma failsOnly_alert {literal : Value} {Q : Value → Prop} (hliteral : V literal) (hQ : Q .null) :
    (alert literal).FailsOnly V Q := by
  simp only [alert, failsOnly_bind, failsOnly_value]
  intro trigger _ message hmessage
  exact failsOnly_orDefault hmessage hliteral fun payload hpayload =>
    failsOnly_fireOn hpayload trivial hQ

/-- A navigation fails only of a page that is too large. -/
lemma failsOnly_navigate {literal : Value} {Q : Value → Prop} (hliteral : V literal)
    (hQ : Q .null) : (navigate literal).FailsOnly V Q := by
  simp only [navigate, failsOnly_bind, failsOnly_value]
  exact fun trigger _ => failsOnly_fireOn hliteral trivial hQ

/-- **The program of a kind fails only of values that are too large**, among those on its sockets,
the time and the node's own data. -/
theorem ofKind_failsOnly (kind : Kind) {node : Node} (hliteral : V node.literal)
    (hnewTab : V (Fields.get node.data "newTab")) :
    (ofKind kind node).FailsOnly V fun _ => True := by
  cases kind with
  | timer =>
    simp only [ofKind, making, failsOnly_bind]
    exact failsOnly_timer fun _ => trivial
  | animation =>
    simp only [ofKind, making, failsOnly_bind]
    exact failsOnly_animation hliteral fun _ => trivial
  | navigate =>
    simp only [ofKind, making, failsOnly_bind]
    exact failsOnly_navigate hliteral trivial
  | link =>
    simp only [ofKind, making, failsOnly_bind]
    exact failsOnly_link hliteral hnewTab trivial
  | alert =>
    simp only [ofKind, making, failsOnly_bind]
    exact failsOnly_alert hliteral trivial
  | random | hover | click =>
    simp only [ofKind, making, failsOnly_bind]
    exact fun _ _ => trivial
  | _ =>
    simp [ofKind, making, unary, binary, compare, divideBy, style, transition, merge, choose]

end Operation

/-- **The program of a node fails only of values that are too large**, among those on its sockets,
the time and the node's own data. -/
theorem Node.program_failsOnly {V : Value → Prop} {node : Node} (hliteral : V node.literal)
    (hnewTab : V (Fields.get node.data "newTab")) : node.program.FailsOnly V fun _ => True := by
  unfold program
  rcases node.kind? with _ | kind
  · trivial
  · exact Operation.ofKind_failsOnly kind hliteral hnewTab

end DesignGraph
