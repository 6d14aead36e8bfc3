import DesignGraph.Proofs.Composition.Effects
import DesignGraph.Proofs.Live.Frame
import Mathlib.Logic.Relation
/-!
# The steps of a session

A fault can stop an input halfway: a tick in the middle of its pass, a change of page before the
new page is shown. What a session can come to is therefore not told by what inputs do when they
return. Here every input, returning or not, is cut into steps that are never half done, and what
each step keeps holds of every session that inputs lead to.

## Main definitions

* `DesignGraph.Input.target?` — the id at which an input points.
* `DesignGraph.Session.Step` — the steps.

## Main results

* `DesignGraph.Session.visit_effects`, `DesignGraph.Session.navigateTo_effects` — what a visit and
  a change of page leave behind, also when they fault.
* `DesignGraph.Session.tick_parts` — a tick changes the page at its very end, if at all.
* `DesignGraph.Session.receive_steps` — every input is a sequence of steps.
* `DesignGraph.Session.receiveAll_induct` — what every step keeps holds throughout.
-/

set_option relaxedAutoImplicit false
set_option autoImplicit false

namespace DesignGraph

open Relation

/-! ## Pages of documents -/

namespace Document

/-- A key can be shown. -/
lemma showPage_of_isKey {page : Value} (h : page.isKey = true) (document : Document) :
    document.showPage page = .ok { document with
      visible := if document.visible.any page.sameKey then document.visible
        else document.visible ++ [page] } := by
  rw [showPage, Value.asKey, if_pos h]
  change (if _ then _ else _) = _
  split_ifs <;> rfl

/-- A list or an object cannot be shown. -/
lemma showPage_of_not_isKey {page : Value} (h : page.isKey = false) (document : Document) :
    document.showPage page = .error .wrongKind := by
  rw [showPage, Value.asKey, h]
  rfl

end Document

/-- The id at which an input points with the pointer, if it does. -/
def Input.target? : Input → Option Value
  | .pointerEnter id | .pointerLeave id | .click id => some id
  | _ => none

namespace Session

variable {s s' : Session} {given : List Input}

/-! ## What is left behind -/

/-- **All that a visit leaves behind**, also one that faults: nothing, or what the composition of
the element has come to, how the element shows and which animation is tracked of it. -/
lemma visit_effects (element : Element) (s : Session) :
    (s.visit element).2 = s ∨
    ∃ shown animations p,
      p = (Composition.compose (s.setting element) (s.progress element)).2 ∧
      (s.visit element).2 = { s.absorb element.id p with
        document := { s.document with elements := shown }
        state := { (s.absorb element.id p).state with animations := animations } } := by
  rw [visit]
  rcases s.document.element? element.id with _ | live
  · exact .inl rfl
  dsimp only
  split_ifs
  · exact .inl rfl
  refine .inr ?_
  rcases Composition.compose (s.setting element) (s.progress element) with ⟨fault | c, p⟩
  · exact ⟨s.document.elements, s.state.animations, p, rfl, rfl⟩
  dsimp only
  split_ifs
  · obtain ⟨live', animations, -, hframe⟩ := apply_frame element live c (s.absorb element.id p)
    exact ⟨_, animations, p, rfl, hframe⟩
  · exact ⟨s.document.elements, s.state.animations, p, rfl, rfl⟩

/-- Delivering the waiting alerts, or failing to, changes the dispatcher and nothing else. -/
lemma flush_effects (s : Session) :
    s.flush.2 = { s with dispatcher := s.dispatcher.flush.2 } := by
  rw [flush]
  rcases s.dispatcher.flush with ⟨fault | n, dispatcher⟩ <;> rfl

/-- Leaving a page takes the triggers of its elements away and leaves page and project as they
are. -/
lemma leavePage_effects (s : Session) :
    s.leavePage.project = s.project ∧ s.leavePage.state.page = s.state.page ∧
      s.leavePage.state.triggers = (s.project.elementsOn s.state.page).foldl
        (fun triggers element => Fields.erase element.id triggers) s.state.triggers := by
  obtain ⟨hovers, clicks, animations, hforgotten⟩ :=
    LiveState.forget_frame (s.project.elementsOn s.state.page) s.state
  have hstate : s.leavePage.state = _ := hforgotten
  rw [hstate]
  exact ⟨rfl, rfl, rfl⟩

/-- **All that a change of page leaves behind.** The page that is shown already stays as it is. A
list or an object is refused after the old page is left and before another one is shown. Any other
page comes to be shown. -/
lemma navigateTo_effects (page : Value) (s : Session) :
    s.state.page.equals page = true ∧ s.navigateTo page = (none, s) ∨
    s.state.page.equals page = false ∧ page.isKey = false ∧
      s.navigateTo page = (some .wrongKind, s.leavePage) ∨
    s.state.page.equals page = false ∧ page.isKey = true ∧
      ∃ document shown animations, s.leavePage.document.showPage page = .ok document ∧
        (s.navigateTo page).2 = { s with
          document := { document with elements := shown }
          state := { s.leavePage.state with page := page, animations := animations }
          dispatcher := (s.dispatcher.deliver (.pageChanged s.state.page page)).2 } := by
  cases hequals : s.state.page.equals page with
  | true => exact .inl ⟨rfl, by rw [navigateTo, if_pos hequals]⟩
  | false =>
    refine .inr ?_
    cases hkey : page.isKey with
    | false =>
      refine .inl ⟨rfl, rfl, ?_⟩
      simp only [navigateTo, hequals, Document.showPage_of_not_isKey hkey]
      rfl
    | true =>
      refine .inr ⟨rfl, rfl, ?_⟩
      obtain ⟨document, hshow⟩ : ∃ document, s.leavePage.document.showPage page = .ok document :=
        ⟨_, Document.showPage_of_isKey hkey _⟩
      let moved : Session := { s.leavePage with
        document := document, state := { s.leavePage.state with page := page } }
      obtain ⟨shown, animations, hframe⟩ :=
        restart_frame (s.leavePage.project.elementsOn page) moved
      refine ⟨document, shown, animations, hshow, ?_⟩
      have hmoved : (s.navigateTo page).2 =
          { (s.leavePage.project.elementsOn page).foldl restart moved with
            dispatcher := (((s.leavePage.project.elementsOn page).foldl restart
              moved).dispatcher.deliver (.pageChanged s.state.page page)).2 } := by
        simp only [navigateTo, hequals, hshow]
        rfl
      rw [hmoved, hframe]
      rfl

/-- A change of page leaves the project. -/
lemma navigateTo_keeps_project (page : Value) (s : Session) :
    (s.navigateTo page).2.project = s.project := by
  rcases navigateTo_effects page s with ⟨-, heq⟩ | ⟨-, -, heq⟩ | ⟨-, -, _, _, _, -, heq⟩ <;>
    rw [heq]
  exact (leavePage_effects s).1

/-- Pointing at an element, or failing to, changes hovers and clicks and nothing else. -/
lemma receive_pointing {input : Input} (h : input.target?.isSome) (s : Session) :
    ∃ hovers clicks, (s.receive input).2 =
      { s with state := { s.state with hovers := hovers, clicks := clicks } } := by
  have hover (id : Value) (isOver : Bool) : ∃ hovers clicks,
      (s.setState (s.state.hover id isOver)).2 =
        { s with state := { s.state with hovers := hovers, clicks := clicks } } := by
    rcases hchange : s.state.hover id isOver with fault | state
    · exact ⟨s.state.hovers, s.state.clicks, rfl⟩
    · obtain ⟨hovers, rfl⟩ := LiveState.hover_frame hchange
      exact ⟨hovers, s.state.clicks, rfl⟩
  cases input with
  | pointerEnter id => exact hover id true
  | pointerLeave id => exact hover id false
  | click id =>
    rw [receive]
    rcases hchange : s.state.click id with fault | state
    · exact ⟨s.state.hovers, s.state.clicks, rfl⟩
    · obtain ⟨clicks, rfl⟩ := LiveState.click_frame hchange
      exact ⟨s.state.hovers, clicks, rfl⟩
  | _ => cases h

/-! ## Steps -/

/-- The steps of a session that is given inputs. -/
inductive Step (given : List Input) : Session → Session → Prop
  /-- Clocks, counters and tracked animations change. -/
  | aside (s : Session) (clock : Clock) (start : Option Float) (frame : Nat) (running closed : Bool)
    (time : Float) (animations : Fields) :
    Step given s { s with
      clock := clock, start := start, frame := frame, running := running, closed := closed
      state := { s.state with time := time, animations := animations } }
  /-- The pointer comes over an element, leaves it or clicks it. -/
  | point (s : Session) (input : Input) (h : input ∈ given) (hpoints : input.target?.isSome) :
    Step given s (s.receive input).2
  /-- An element of the shown page is visited. -/
  | visit (s : Session) (element : Element) (h : element ∈ s.project.elementsOn s.state.page) :
    Step given s (s.visit element).2
  /-- The waiting alerts are delivered. -/
  | flush (s : Session) : Step given s s.flush.2
  /-- The event processors are shut down. -/
  | shutdown (s : Session) : Step given s { s with dispatcher := s.dispatcher.shutdown.2 }
  /-- A page is asked for. -/
  | ask (s : Session) (page : Value) (h : .requestNavigation page ∈ given) :
    Step given s (s.requestNavigation page)
  /-- The page that was asked for is shown. -/
  | follow (s : Session) (h : s.pendingPage ≠ .null) :
    Step given s ({ s with pendingPage := .null }.navigateTo s.pendingPage).2
  /-- A page is shown. -/
  | navigate (s : Session) (page : Value) (h : .navigateTo page ∈ given) :
    Step given s (s.navigateTo page).2

/-- A session comes to another one step after step. -/
abbrev Steps (given : List Input) : Session → Session → Prop :=
  ReflTransGen (Step given)

/-- Setting the time is one step. -/
lemma setTime_steps (s : Session) : Steps given s s.setTime := by
  obtain ⟨start, animations, time, clock, hset⟩ := setTime_frame s
  rw [hset]
  exact .single (.aside s clock start s.frame s.running s.closed time animations)

/-- A visit leaves the project and the shown page. -/
lemma visit_keeps_page (element : Element) (s : Session) :
    (s.visit element).2.project = s.project ∧ (s.visit element).2.state.page = s.state.page := by
  rcases visit_effects element s with h | ⟨shown, animations, p, -, h⟩ <;>
  · rw [h]
    exact ⟨rfl, rfl⟩

/-- A pass over elements of the shown page is a step for each of them, up to the first fault. -/
lemma visitAll_steps {elements : List Element}
    (h : ∀ element ∈ elements, element ∈ s.project.elementsOn s.state.page) :
    Steps given s (visitAll elements s).2 := by
  induction elements generalizing s with
  | nil => exact .refl
  | cons element rest ih =>
    obtain ⟨helement, hrest⟩ := List.forall_mem_cons.1 h
    have hfirst : Step given s (s.visit element).2 := .visit s element helement
    obtain ⟨hproject, hpage⟩ := visit_keeps_page element s
    have hthen : Steps given (s.visit element).2 (visitAll rest (s.visit element).2).2 := by
      refine ih fun other hother => ?_
      rw [hproject, hpage]
      exact hrest other hother
    rw [visitAll]
    rcases hvisit : s.visit element with ⟨_ | fault, s₁⟩
    · rw [hvisit] at hfirst hthen
      exact .head hfirst hthen
    · rw [hvisit] at hfirst
      exact .single hfirst

/-- A pass leaves the project and the shown page. -/
lemma visitAll_keeps_page (elements : List Element) (s : Session) :
    (visitAll elements s).2.project = s.project ∧
      (visitAll elements s).2.state.page = s.state.page := by
  induction elements generalizing s with
  | nil => exact ⟨rfl, rfl⟩
  | cons element rest ih =>
    obtain ⟨hproject, hpage⟩ := visit_keeps_page element s
    obtain ⟨hproject', hpage'⟩ := ih (s.visit element).2
    rw [visitAll]
    rcases hvisit : s.visit element with ⟨_ | fault, s₁⟩
    · rw [hvisit] at hproject hpage hproject' hpage'
      exact ⟨hproject'.trans hproject, hpage'.trans hpage⟩
    · rw [hvisit] at hproject hpage
      exact ⟨hproject, hpage⟩

/-- Following the request for a page is at most one step. -/
lemma followRequest_steps (s : Session) : Steps given s s.followRequest.2 := by
  rw [followRequest]
  split_ifs with hpage
  · exact .refl
  · exact .single (.follow s hpage)

/-- **A tick is a sequence of steps on the shown page**, which the request for another page follows
unless there is a fault. -/
lemma tick_parts (s : Session) :
    ∃ passed, Steps given s passed ∧ passed.state.page = s.state.page ∧
      (s.tick.2 = passed ∨ s.tick.2 = passed.followRequest.2) := by
  have hset : Steps given s s.setTime := setTime_steps s
  have hsetPage : s.setTime.state.page = s.state.page := by
    obtain ⟨start, animations, time, clock, heq⟩ := setTime_frame s
    rw [heq]
  have hpass : Steps given s.setTime (visitAll s.shown s.setTime).2 := visitAll_steps fun _ h => h
  have hpassPage := (visitAll_keeps_page s.shown s.setTime).2.trans hsetPage
  rw [tick, ← shown]
  rcases hall : visitAll s.shown s.setTime with ⟨_ | fault, passed⟩ <;> rw [hall] at hpass hpassPage
  swap
  · exact ⟨passed, hset.trans hpass, hpassPage, .inl rfl⟩
  have hflush : Step given passed passed.flush.2 := .flush passed
  have hflushPage : passed.flush.2.state.page = s.state.page := by
    rw [flush_effects]
    exact hpassPage
  dsimp only
  rcases hflushed : passed.flush with ⟨_ | fault, flushed⟩ <;> rw [hflushed] at hflush hflushPage
  swap
  · exact ⟨flushed, (hset.trans hpass).tail hflush, hflushPage, .inl rfl⟩
  have hcount : Step given flushed { flushed with frame := flushed.frame + 1 } :=
    .aside flushed flushed.clock flushed.start (flushed.frame + 1) flushed.running flushed.closed
      flushed.state.time flushed.state.animations
  exact ⟨_, ((hset.trans hpass).tail hflush).tail hcount, hflushPage, .inr rfl⟩

/-- A tick is a sequence of steps, wherever it ends. -/
lemma tick_steps (s : Session) : Steps given s s.tick.2 := by
  obtain ⟨passed, hpassed, -, htick | htick⟩ := tick_parts s <;> rw [htick]
  · exact hpassed
  · exact hpassed.trans (followRequest_steps passed)

/-- Reading the clock is one step. -/
lemma readClock_steps (s : Session) : Steps given s s.readClock.2 :=
  .single (.aside s _ s.start s.frame s.running s.closed s.state.time s.state.animations)

/-- Starting or ending a run is one step. -/
lemma running_steps (s : Session) (running : Bool) :
    Steps given s { s with running := running } :=
  .single (.aside s s.clock s.start s.frame running s.closed s.state.time s.state.animations)

/-- Waiting is one step. -/
lemma sleep_steps (seconds : Float) (stopAt : Option Int) (s : Session) :
    Steps given s (s.sleep seconds stopAt) :=
  .single (.aside s _ s.start s.frame _ s.closed s.state.time s.state.animations)

/-- The frames of a run are a sequence of steps. -/
lemma runFrames_steps (interval : Float) (stopAt : Option Int) (limit count : Nat) (s : Session) :
    Steps given s (runFrames interval stopAt limit count s).2 := by
  induction limit generalizing count s with
  | zero => exact .refl
  | succ limit ih =>
    rw [runFrames]
    split_ifs
    · exact .refl
    dsimp only
    have hticked : Steps given s s.readClock.2.tick.2 := (readClock_steps s).trans (tick_steps _)
    rcases htick : s.readClock.2.tick with ⟨_ | fault, s₁⟩ <;> rw [htick] at hticked
    swap
    · exact hticked
    have hread : Steps given s s₁.readClock.2 := hticked.trans (readClock_steps s₁)
    refine .trans ?_ (ih (count + 1) _)
    split_ifs
    · exact hread.trans (sleep_steps _ _ _)
    · exact hread

/-- A whole run is a sequence of steps. -/
lemma run_steps (frames : Option Int) (fps : Number) (stopAt : Option Int) (s : Session) :
    Steps given s (s.run frames fps stopAt).2 := by
  rw [run]
  rcases Number.dividedBy (.float 1) fps with fault | interval
  · exact .refl
  exact ((running_steps s true).trans (runFrames_steps interval stopAt _ 0 _)).trans
    (running_steps _ false)

/-- Closing is a sequence of steps. -/
lemma close_steps (s : Session) : Steps given s s.close.2 := by
  have hstop : Steps given s s.stop := running_steps s false
  rw [close]
  split_ifs
  · exact hstop
  refine (hstop.tail (.shutdown s.stop)).tail ?_
  exact .aside _ s.clock s.start s.frame false true s.state.time s.state.animations

/-- **Every input is a sequence of steps**, also one that ends in a fault. -/
theorem receive_steps {input : Input} (h : input ∈ given) (s : Session) :
    Steps given s (s.receive input).2 := by
  cases input with
  | mount =>
    obtain ⟨animations, hmounted⟩ := mount_frame s
    rw [receive, hmounted]
    exact .single (.aside s _ _ s.frame s.running s.closed s.state.time animations)
  | tick => exact tick_steps s
  | run frames fps stopAt =>
    have hrun : Steps given s (s.run frames fps stopAt).2 := run_steps frames fps stopAt s
    rw [receive]
    rcases hr : s.run frames fps stopAt with ⟨fault | n, s₁⟩ <;>
    · rw [hr] at hrun
      exact hrun
  | stop => exact running_steps s false
  | close => exact close_steps s
  | pointerEnter id | pointerLeave id | click id => exact .single (.point s _ h rfl)
  | requestNavigation page => exact .single (.ask s page h)
  | navigateTo page => exact .single (.navigate s page h)
  | advance seconds =>
    exact .single (.aside s _ s.start s.frame s.running s.closed s.state.time s.state.animations)

/-- A row of inputs is a sequence of steps. -/
lemma receiveAll_steps {inputs : List Input} (h : inputs ⊆ given) (s : Session) :
    Steps given s (receiveAll inputs s).2 := by
  induction inputs generalizing s with
  | nil => exact .refl
  | cons input rest ih =>
    obtain ⟨hinput, hrest⟩ := List.cons_subset.1 h
    exact (receive_steps hinput s).trans (ih hrest _)

/-- What every step keeps, a sequence of steps keeps. -/
lemma Steps.induct {P : Session → Prop} (hstep : ∀ s s', Step given s s' → P s → P s')
    (h : Steps given s s') (hs : P s) : P s' := by
  induction h with
  | refl => exact hs
  | tail _ hlast ih => exact hstep _ _ hlast ih

/-- **What every step keeps holds throughout**, whatever faults there are on the way. -/
theorem receiveAll_induct {P : Session → Prop} {inputs : List Input}
    (hstep : ∀ s s', Step inputs s s' → P s → P s') (hs : P s) : P (receiveAll inputs s).2 :=
  (receiveAll_steps (List.Subset.refl inputs) s).induct hstep hs

end Session

end DesignGraph
