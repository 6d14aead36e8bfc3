import DesignGraph.Proofs.Coercion.Equality
import DesignGraph.Proofs.Operation.Requests
/-!
# Who made a value

Programs get signals, and a signal tells who has made it. That matters only for lists and objects,
which are equal if they are one thing; every other value may come from anywhere. So signals of the
same value are told apart by no program, if their makers are the same as well where the value is a
list or an object. Given such signals instead of others, a program makes the same requests and comes
to a result that cannot be told apart either.

## Main definitions

* `DesignGraph.Signal.Agrees` — signals that no program tells apart.
* `DesignGraph.Program.Follows` — a program goes the way of another one, given such signals.
* `DesignGraph.Program.forget` — a program that is not told who made values.

## Main results

* `DesignGraph.Program.Follows.bind` — programs that follow others are composed.
* `DesignGraph.Operation.ofKind_follows` — the program of every kind follows itself.
* `DesignGraph.Node.program_follows` — so does the program of every node.
-/

set_option relaxedAutoImplicit false
set_option autoImplicit false

namespace DesignGraph

/-! ## Agreement -/

/-- Two signals have the same value, and if that is a list or an object, then it is one thing. -/
structure Signal.Agrees (s t : Signal) : Prop where
  value : t.value = s.value
  maker : s.value.isObject = true → t.maker = s.maker

theorem Signal.Agrees.refl (s : Signal) : s.Agrees s :=
  ⟨rfl, fun _ => rfl⟩

/-- Answers to a request that no program tells apart. -/
def Request.AnswersAgree : (request : Request) → request.Answer → request.Answer → Prop
  | .read _, s, t => s.Agrees t
  | _, a, b => b = a

/-- An answer agrees with itself. -/
theorem Request.AnswersAgree.refl (request : Request) (a : request.Answer) :
    request.AnswersAgree a a := by
  cases request with
  | read socket => exact Signal.Agrees.refl a
  | _ => rfl

/-- An answer without who made it. -/
def Request.forget : (request : Request) → request.Answer → request.Answer
  | .read _, s => ⟨s.value, ""⟩
  | _, a => a

/-- Answers that agree are the same without who made them. -/
theorem Request.AnswersAgree.forget_eq {request : Request} {a b : request.Answer}
    (h : request.AnswersAgree a b) : request.forget b = request.forget a := by
  cases request with
  | read socket => exact congrArg (Signal.mk · "") (Signal.Agrees.value h)
  | _ => exact h

/-- Outcomes that give rise to signals that agree. -/
inductive Outcome.Agrees : Outcome → Outcome → Prop
  | made (value : Value) : Agrees (.made value) (.made value)
  | passed {s t : Signal} (h : s.Agrees t) : Agrees (.passed s) (.passed t)

/-- Outcomes of a node that agree leave it as signals that agree. -/
theorem Outcome.Agrees.signal {o o' : Outcome} (h : o.Agrees o') (id : String) :
    (o.signal id).Agrees (o'.signal id) := by
  cases h with
  | made value => exact .refl _
  | passed h => exact h

namespace Program

variable {α β : Type} {R : α → α → Prop} {S : β → β → Prop}

/-- A program goes the way of another one: given answers that agree, it makes the same requests,
fails alike and comes to related results. -/
inductive Follows (R : α → α → Prop) : Program α → Program α → Prop
  | done {a b : α} (h : R a b) : Follows R (.done a) (.done b)
  | fail {fault : Fault} : Follows R (.fail fault) (.fail fault)
  | ask {request next next'}
    (h : ∀ a b, request.AnswersAgree a b → Follows R (next a) (next' b)) :
    Follows R (.ask request next) (.ask request next')

/-- **Programs that follow others are composed** with programs that do so from related results. -/
theorem Follows.bind {program program' : Program α} {f f' : α → Program β}
    (h : program.Follows R program') (hf : ∀ a b, R a b → (f a).Follows S (f' b)) :
    (program >>= f).Follows S (program' >>= f') := by
  induction h with
  | done hab => exact hf _ _ hab
  | fail => exact .fail
  | ask _ ih => exact .ask ih

/-! ## Programs that ignore makers -/

/-- A program that is told the values of signals, but not who made them. -/
def forget : Program α → Program α
  | .done a => .done a
  | .fail fault => .fail fault
  | .ask request next => .ask request fun a => (next (request.forget a)).forget

@[simp] theorem forget_pure (a : α) : (pure a : Program α).forget = pure a :=
  rfl

@[simp] theorem forget_fail (fault : Fault) :
    (Program.fail fault : Program α).forget = .fail fault :=
  rfl

@[simp] theorem forget_ofExcept (e : Except Fault α) : (ofExcept e).forget = ofExcept e := by
  cases e <;> rfl

/-- Only reads say who made something. -/
theorem forget_request {r : Request} (h : ∀ a, r.forget a = a) :
    (request r).forget = request r :=
  congrArg (Program.ask r) (funext fun a => congrArg Program.done (h a))

@[simp] theorem forget_bind (program : Program α) (f : α → Program β) :
    (program >>= f).forget = program.forget >>= fun a => (f a).forget := by
  change (program.bind f).forget = program.forget.bind fun a => (f a).forget
  induction program with
  | done a => rfl
  | fail fault => rfl
  | ask request next ih => exact congrArg (Program.ask request) (funext fun a => ih _)

@[simp] theorem forget_ite (c : Prop) [Decidable c] (a b : Program α) :
    (if c then a else b).forget = if c then a.forget else b.forget :=
  apply_ite forget c a b

/-- **A program that is not told who made values** comes to the same result, given signals that
agree. -/
theorem forget_follows (program : Program α) :
    program.forget.Follows (fun a b => b = a) program.forget := by
  induction program with
  | done a => exact .done rfl
  | fail fault => exact .fail
  | ask request next ih =>
    refine .ask fun a b hab => ?_
    rw [hab.forget_eq]
    exact ih _

/-- A program that ignores makers is followed by what follows its result. -/
theorem follows_bind {program : Program α} {f : α → Program β} (h : program.forget = program)
    (hf : ∀ a, (f a).Follows S (f a)) : (program >>= f).Follows S (program >>= f) := by
  rw [← h]
  refine program.forget_follows.bind fun a b hab => ?_
  rw [hab]
  exact hf a

end Program

namespace Operation

open Coercion Program

@[simp] theorem forget_value (socket : String) : (value socket).forget = value socket :=
  rfl

/-- A divisor ignores makers. -/
@[simp] theorem forget_divisor (socket : String) : (divisor socket).forget = divisor socket := by
  simp only [divisor, forget_bind, forget_value]
  congr 1
  funext v
  cases v <;> simp

/-- A timer ignores makers. -/
@[simp] theorem forget_timer : timer.forget = timer := by
  rw [timer, forget_bind, forget_request fun _ => rfl]
  congr 1
  funext time
  simp only [operand, forget_bind, forget_value, forget_ofExcept]
  congr 1
  funext speed
  cases time <;> simp

/-- An animation ignores makers. -/
@[simp] theorem forget_animation (literal : Value) :
    (animation literal).forget = animation literal := by
  rw [animation, forget_bind, forget_request fun _ => rfl]
  congr 1
  funext wired
  simp [flag, operand]

/-- What an action does with its trigger ignores makers if what it fires does. -/
@[simp] theorem forget_fireOn (trigger payload : Value) (action : Program Action) :
    (fireOn trigger payload action).forget = fireOn trigger payload action.forget := by
  have hedge : (request (.edge trigger)).forget = request (.edge trigger) :=
    forget_request fun _ => rfl
  have hfire (a : Action) : (request (.fire a)).forget = request (.fire a) :=
    forget_request fun _ => rfl
  simp [fireOn, hedge, hfire]

/-- Loose equality is the same for signals that agree: only of two lists or objects does it matter
whether they are one thing. -/
theorem looseEquals_of_agrees {a b a' b' : Signal} (ha : a.Agrees a') (hb : b.Agrees b') :
    looseEquals (a'.maker == b'.maker) a'.value b'.value =
      looseEquals (a.maker == b.maker) a.value b.value := by
  rw [ha.value, hb.value, looseEquals_eq_abstract, looseEquals_eq_abstract]
  by_cases hobject : (a.value.isObject && b.value.isObject) = true
  · rw [Bool.and_eq_true] at hobject
    rw [ha.maker hobject.1, hb.maker hobject.2]
  · rw [Bool.not_eq_true] at hobject
    simp only [abstractEquals, hobject, Bool.false_eq_true, if_false]

/-- A comparison tells only whether two lists or objects are one thing. -/
theorem equality_follows : equality.Follows (fun a b => b = a) equality := by
  refine .ask fun a a' ha => .ask fun b b' hb => ?_
  show (Program.ofExcept _).Follows _ (Program.ofExcept _)
  rw [looseEquals_of_agrees ha hb, ← forget_ofExcept]
  exact forget_follows _

/-- A choice hands on signals that agree. -/
theorem choose_follows : choose.Follows Signal.Agrees choose := by
  have hsignal (socket : String) : (signal socket).Follows Signal.Agrees (signal socket) :=
    .ask fun _ _ h => .done h
  refine follows_bind (by simp [flag]) fun condition => ?_
  cases condition
  · exact hsignal "in-false"
  · exact hsignal "in-true"

/-- A program with one result makes one outcome. -/
theorem making_follows {program : Program Value}
    (h : program.Follows (fun a b => b = a) program) :
    (making program).Follows Outcome.Agrees (making program) := by
  refine h.bind fun a b hab => ?_
  rw [hab]
  exact .done (.made a)

/-- A program that ignores makers makes one outcome. -/
theorem making_follows_of_forget {program : Program Value} (h : program.forget = program) :
    (making program).Follows Outcome.Agrees (making program) :=
  making_follows (h ▸ program.forget_follows)

/-- **The program of every kind follows itself**: signals that agree are not told apart. -/
theorem ofKind_follows (kind : Kind) (node : Node) :
    (ofKind kind node).Follows Outcome.Agrees (ofKind kind node) := by
  cases kind with
  | text | color | number | toggle | output => exact .done (.made _)
  | ifElse => exact choose_follows.bind fun _ _ h => .done (.passed h)
  | equal | notEqual =>
    refine making_follows (equality_follows.bind fun a b hab => ?_)
    rw [hab]
    exact .done rfl
  | random | hover | click =>
    exact making_follows_of_forget (by rw [forget_bind, forget_request fun _ => rfl]; rfl)
  | _ =>
    refine making_follows_of_forget ?_
    simp [unary, binary, compare, divideBy, operand, plainNumber, flag, words, style, transition,
      merge, navigate, link, alert]

end Operation

/-- **The program of a node follows itself.** -/
theorem Node.program_follows (node : Node) :
    node.program.Follows Outcome.Agrees node.program := by
  unfold program
  split
  · exact Operation.ofKind_follows _ node
  · exact .done (.made _)

end DesignGraph
