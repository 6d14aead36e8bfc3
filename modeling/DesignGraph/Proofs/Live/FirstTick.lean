import DesignGraph.Proofs.Live.Elsewhere
import DesignGraph.Proofs.Live.Pass
import DesignGraph.Proofs.Number.Bits
/-!
# The first tick

Before anything happens, a document shows every element as it is by itself: composed without a
session, without memory of triggers and with nobody to hear of actions. The first tick composes the
elements of the first page once more, now with all of these. If no time has passed and nobody has
pointed at anything, then it comes to the same compositions. So there is no text to write; and an
animation that plays was found playing when the elements were mounted, so it is not played again.

Only animations that are no texts, or texts of nothing but white space, are not recognized. And the
clock has to read a finite time, since from infinity to infinity there is no time that has passed.

## Main definitions

* `DesignGraph.Clock.IsConstant` — a clock that always reads the same.
* `DesignGraph.LiveElement.HasPlainAnimation` — a computed animation, if any, is recognized.

## Main results

* `DesignGraph.Document.element?_ofProject` — the first document shows elements as they are by
  themselves.
* `DesignGraph.Composition.get?_style_of_compose` — what graphs compute is in the style.
* `DesignGraph.Session.first_tick_writes_nothing` — the first tick writes no text and plays no
  animation again.
-/

set_option relaxedAutoImplicit false
set_option autoImplicit false

namespace DesignGraph

variable {project : Project} {element : Element}

/-! ## Rendered documents -/

namespace Document

/-- Rendering adds each of different elements once, as it is by itself. -/
lemma get?_render {elements : List Element} {shown result : List (String × LiveElement)}
    (hids : (elements.map (·.id)).Nodup) (h : render project elements shown = .ok result) :
    (∀ element ∈ elements, ∃ c, Composition.standalone project .initial element = .ok c ∧
      Fields.get? result element.id = some (.new c)) ∧
    ∀ id, id ∉ elements.map (·.id) → Fields.get? result id = Fields.get? shown id := by
  induction elements generalizing shown with
  | nil =>
    cases h
    exact ⟨List.forall_mem_nil _, fun _ _ => rfl⟩
  | cons element rest ih =>
    obtain ⟨hnew, hrest⟩ := List.nodup_cons.1 hids
    rw [render] at h
    rcases hc : Composition.standalone project .initial element with fault | c
    · rw [hc] at h
      cases h
    rw [hc] at h
    obtain ⟨hshown, hothers⟩ := ih hrest h
    refine ⟨fun other hother => ?_, fun id hid => ?_⟩
    · rcases List.mem_cons.1 hother with rfl | hother
      · refine ⟨c, hc, ?_⟩
        rw [hothers other.id hnew, Fields.get?_put, if_pos rfl]
      · exact hshown other hother
    · obtain ⟨hne, hid⟩ := not_or.1 (mt List.mem_cons.2 hid)
      rw [hothers id hid, Fields.get?_put, if_neg (Ne.symm hne)]

/-- **The first document shows elements as they are by themselves.** -/
lemma element?_ofProject {document : Document} (hids : (project.elements.map (·.id)).Nodup)
    (h : ofProject project = .ok document) (helement : element ∈ project.elements) :
    ∃ c, Composition.standalone project .initial element = .ok c ∧
      document.element? element.id = some (.new c) := by
  rw [ofProject] at h
  rcases hrender : render project project.elements [] with fault | shown
  · rw [hrender] at h
    cases h
  · rw [hrender] at h
    cases h
    exact (get?_render hids hrender).1 element helement

end Document

/-! ## Rendered animations -/

namespace Composition

/-- **What graphs compute is in the style**, over the static style. -/
lemma get?_style_of_compose {σ : Type} {setting : Setting σ} {p q : Progress σ} {c : Composition}
    (h : compose setting p = (.ok c, q)) {key : String} {v : Value}
    (hv : Fields.get? c.computed.style key = some v) : Fields.get? c.style key = some v := by
  obtain ⟨graphs, layers, -, -, rfl⟩ := compose_ok h
  have hkeys : (Fields.keys (layers.foldl overlay bare).style).Nodup :=
    nodup_keys_foldl_overlay layers List.nodup_nil
  have hfound : Fields.get? (layers.foldl overlay bare).style key = some v := hv
  change Fields.get? (Fields.merge setting.element.style (layers.foldl overlay bare).style) key = _
  rw [Fields.get?_merge hkeys, hfound, Option.some_or]

end Composition

namespace LiveElement

variable {c : Composition} {tracked : Option Value} {live : LiveElement}

/-- A style has no animation, or one that is an empty text or a text with more than white space. -/
def HasPlainAnimation (style : Fields) : Prop :=
  ∀ a, Fields.get? style "animation" = some a →
    ∃ text, a = .str text ∧ (text = "" ∨ ∃ char ∈ text.toList, isWhite char = false)

/-- A text that plays and is not blank is tracked when its element is mounted. -/
lemma adopted_new {text : String} (hstyle : Fields.get? c.style "animation" = some (.str text))
    (hplays : text ≠ "" ∧ text ≠ "none") (hmark : ∃ char ∈ text.toList, isWhite char = false) :
    adopted (.new c) = some (.str text) := by
  have hshows : (LiveElement.new c).animation = .str text := by
    rw [animation, Fields.get]
    exact congrArg (Option.getD · .null) hstyle
  have hblank : isBlankText (.str text) = false := by
    simpa [isBlankText] using hmark
  have hother : (Value.str text).equals (.str "none") = false := by
    rw [Bool.eq_false_iff, ne_eq, Value.equals_str]
    simpa using hplays.2
  have hplays : plays (.str text) = true := by
    simp [plays, Value.isFilled, hplays.1, hother]
  rw [adopted, hshows, hplays, hblank]
  rfl

/-- A computed animation forces no layout if it plays for nobody or is tracked. -/
lemma reflows_withAnimation {text : String}
    (hdesired : Fields.get? c.computed.style "animation" = some (.str text))
    (hknown : (text = "" ∨ text = "none") ∨ tracked = some (.str text)) :
    (withAnimation c tracked live).2.1.reflows = live.reflows := by
  rw [withAnimation, hdesired]
  dsimp only
  split_ifs with hequals
  · rfl
  rw [animate_str]
  rcases hknown with hnone | rfl
  · exact congrArg (live.reflows + ·) (if_pos hnone)
  · exact absurd (Value.equals_str.2 rfl) hequals

/-- **A visit of a rendered element plays no animation again** that is plain. -/
lemma reflows_visited_new (hplain : HasPlainAnimation c.computed.style)
    (hstyle : ∀ a, Fields.get? c.computed.style "animation" = some a →
      Fields.get? c.style "animation" = some a) :
    (visited element c (adopted (.new c)) (.new c)).1.reflows = 0 := by
  rw [visited]
  split_ifs
  swap
  · rfl
  obtain ⟨text, style, hkept⟩ := applyStyles_withText_keeps element c (.new c)
  rw [broughtInLine]
  rcases hstyles : (withText element c (.new c)).applyStyles c.computed.style followedKeys with
    ⟨_ | fault, shown⟩ <;> rw [hstyles] at hkept <;> dsimp only at hkept ⊢
  swap
  · rw [hkept]
    rfl
  have hshown : shown.reflows = 0 := by rw [hkept]; rfl
  rcases hdesired : Fields.get? c.computed.style "animation" with _ | a
  · rwa [withAnimation, hdesired]
  · obtain ⟨text, rfl, hmark⟩ := hplain a hdesired
    rw [reflows_withAnimation hdesired, hshown]
    by_cases hnone : text = "" ∨ text = "none"
    · exact .inl hnone
    · obtain ⟨hempty, hnone⟩ := not_or.1 hnone
      exact .inr (adopted_new (hstyle _ hdesired) ⟨hempty, hnone⟩ (hmark.resolve_left hempty))

end LiveElement

/-! ## The first tick -/

/-- A clock that always reads the same. -/
def Clock.IsConstant (clock : Clock) : Prop :=
  clock.now + clock.step = clock.now

instance (clock : Clock) : Decidable clock.IsConstant :=
  inferInstanceAs (Decidable (clock.now + clock.step = clock.now))

namespace Session

open LiveElement

variable {processors : List Processor} {document : Document} {samples : Nat → Float} {clock : Clock}
  {s t : Session}

/-- By a constant clock that reads a finite time, no time has passed in the first tick. -/
lemma time_setTime_new (hclock : clock.IsConstant) (hfinite : Double.isFinite clock.now = true)
    (dispatcher : Dispatcher) :
    (new project document dispatcher samples clock).setTime.state.time = 0 := by
  change clock.now + clock.step - clock.now = 0
  rw [show clock.now + clock.step = clock.now from hclock]
  exact Double.sub_self_of_isFinite hfinite

/-- In the first tick, the graphs of an element see what they see at the start. -/
lemma context_setTime_new (hclock : clock.IsConstant) (hfinite : Double.isFinite clock.now = true)
    (dispatcher : Dispatcher) (id : String) :
    (new project document dispatcher samples clock).setTime.state.context id = .initial := by
  have htime : (new project document dispatcher samples clock).setTime.state.time = 0 :=
    time_setTime_new hclock hfinite dispatcher
  obtain ⟨_, _, _, _, hset⟩ := setTime_frame (new project document dispatcher samples clock)
  rw [hset] at htime ⊢
  exact congrArg (fun time => (⟨false, false, .float time⟩ : Context)) htime

/-- In the first tick, the animation is tracked that an element of the design plays. -/
lemma tracked_setTime_new (helement : element ∈ project.elements) (dispatcher : Dispatcher) :
    (new project document dispatcher samples clock).setTime.tracked element.id =
      (document.element? element.id).bind adopted := by
  have hmem : element.id ∈ project.elements.map (·.id) := List.mem_map_of_mem helement
  have hmounted : (new project document dispatcher samples clock).mount.tracked element.id =
      ((document.element? element.id).bind adopted).or none :=
    (tracked_mount _ _).trans (if_pos hmem)
  rw [Option.or_none] at hmounted
  exact (tracked_setTime _ _).trans ((if_pos rfl).trans hmounted)

/-- **A visit in the first tick does not change what shows**: the composition is the rendered one.
-/
lemma visit_rendered {m n : Session} {c : Composition} (hsteady : element.IsSteady project)
    (hlenient : m.dispatcher.strict = false) (hproject : m.project = project)
    (hcontext : m.state.context element.id = .initial)
    (hc : Composition.standalone project .initial element = .ok c)
    (hlive : m.document.element? element.id = some (.new c))
    (htracked : m.tracked element.id = adopted (.new c)) (hvisit : m.visit element = (none, n)) :
    ∃ live, n.document.element? element.id = some live ∧ live.textWrites = 0 ∧
      (HasPlainAnimation c.computed.style → live.reflows = 0) := by
  have hmounts : m.Mounts element := ⟨.new c, hlive, rfl⟩
  rcases visit_shows hvisit with ⟨hnot, -⟩ | ⟨live, c', p, hlive', -, hcompose, -, hshown, -⟩
  · exact absurd hmounts hnot
  obtain rfl : LiveElement.new c = live := Option.some.inj (hlive.symm.trans hlive')
  obtain rfl : c' = c := by
    refine Composition.compose_eq_standalone (Composition.welcomes_of_post rfl) ?_ hlenient
      hcompose ?_
    · change element.IsSteady m.project
      rwa [hproject]
    · change Composition.standalone m.project (m.state.context element.id) element = .ok c
      rw [hproject, hcontext, hc]
  rw [htracked] at hshown
  refine ⟨_, hshown, ?_, fun hplain => ?_⟩
  · have hsame : needsText element c' (.new c') = false := by simp [needsText, LiveElement.new]
    rw [(visited_keeps ..).2, hsame, Bool.and_false]
    rfl
  · exact reflows_visited_new hplain fun _ => Composition.get?_style_of_compose hcompose

/-- **The first tick writes nothing.** Let a session start on the document of its design, which has
different ids and no random nodes, and let its clock always read the same finite time. If the first
tick returns and stays on the page, then it has written no text of any element, and it has forced no
layout of an element with a plain animation, or with none.

**Proof sketch.** An element of another page is spared. An element of the page has its turn; until
then and afterwards it is left alone. In its turn it is composed as it was for the document, since
neither memory nor listeners matter to a composition; and what it plays was tracked when it was
mounted. -/
theorem first_tick_writes_nothing (hids : (project.elements.map (·.id)).Nodup)
    (hsteady : project.IsSteady) (hdocument : Document.ofProject project = .ok document)
    (hclock : clock.IsConstant) (hfinite : Double.isFinite clock.now = true)
    (hs : new project document (.new processors false) samples clock = s)
    (ht : s.tick = (none, t)) (hpage : t.state.page = s.state.page)
    (helement : element ∈ project.elements) :
    ∃ c live, Composition.standalone project .initial element = .ok c ∧
      document.element? element.id = some (.new c) ∧
      t.document.element? element.id = some live ∧ live.textWrites = 0 ∧
      (HasPlainAnimation c.computed.style → live.reflows = 0) := by
  obtain ⟨c, hc, hrendered⟩ := Document.element?_ofProject hids hdocument helement
  subst hs
  by_cases helsewhere : Value.ofText? element.pageId = project.firstPage
  · have hon : element ∈ project.elementsOn project.firstPage :=
      List.mem_filter.2 ⟨helement, decide_eq_true helsewhere⟩
    obtain ⟨m, n, hvisit, hbefore, hafter, hlenient, -⟩ := tick_turn hids hon rfl ht hpage
    have hlive : m.document.element? element.id = some (.new c) := by
      rw [hbefore.document, (setTime_keeps _).2]
      exact hrendered
    have htracked : m.tracked element.id = adopted (.new c) := by
      rw [tracked, hbefore.animations, ← tracked, tracked_setTime_new helement, hrendered,
        Option.bind_some]
    obtain ⟨live, hshown, hwrites, hreflows⟩ := visit_rendered (hsteady element helement) hlenient
      (hbefore.project.trans (setTime_keeps _).1)
      (hbefore.context.trans (context_setTime_new hclock hfinite _ _)) hc hlive htracked hvisit
    exact ⟨c, live, hc, hrendered, hafter.document.trans hshown, hwrites, hreflows⟩
  · have hspared := (tick_spares hids helement helsewhere ht).document
    rw [hpage] at hspared
    have hstays : t.document.element? element.id = document.element? element.id :=
      hspared.trans (if_neg (Ne.symm helsewhere))
    exact ⟨c, .new c, hc, hrendered, hstays.trans hrendered, rfl, fun _ => rfl⟩

/-! ## A wheel -/

/-- A badge that turns and says so from the start. -/
def wheelElement : Element :=
  { lampElement with id := "wheel", scripts := ["turn"] }

/-- The design of the wheel alone. -/
def wheel : Project :=
  { lamp with
    elements := [wheelElement]
    scripts := [
      ⟨[⟨"word", "TEXT", [("value", .str "round")]⟩,
          ⟨"spin", "ANIMATION", [("value", .str "spin")]⟩, ⟨"out", "OUTPUT", []⟩],
        [⟨"word", "out", "in-content"⟩, ⟨"spin", "out", "in-style"⟩], .str "turn", .null⟩] }

/-- The wheel by itself. -/
def wheelTurning : Composition :=
  let style := [("animation", .str "spin 1s ease-in-out 0s infinite both")]
  ⟨style, "round", ⟨style, some "round"⟩, true⟩

/-- The wheel as it is at first. -/
def wheelDocument : Document :=
  ⟨[("wheel", .new wheelTurning)], [.str "home"]⟩

/-- The wheel's session at the start. -/
def wheelStart : Session :=
  new wheel wheelDocument (.new [] false) (fun _ => 0.5) ⟨0, 0, []⟩

/-- The first tick composes the wheel again, writes nothing and lets it turn on. -/
theorem wheel_turns_on :
    Document.ofProject wheel = .ok wheelDocument ∧ wheelStart.tick.1 = none ∧
      wheelTurning.dynamic = true ∧
      ∃ live, wheelStart.tick.2.document.element? "wheel" = some live ∧ live.textWrites = 0 ∧
        live.reflows = 0 := by
  have hdocument : Document.ofProject wheel = .ok wheelDocument := by decide +kernel
  have hreturns : wheelStart.tick.1 = none := by decide +kernel
  have hpage : wheelStart.tick.2.state.page = wheelStart.state.page := by decide +kernel
  have hids : (wheel.elements.map (·.id)).Nodup := by decide
  have hsteady : wheel.IsSteady := by decide +kernel
  have hclock : (⟨0, 0, []⟩ : Clock).IsConstant := by decide +kernel
  have hfinite : Double.isFinite 0 = true := by decide +kernel
  have halone : Composition.standalone wheel .initial wheelElement = .ok wheelTurning := by
    decide +kernel
  have hplain : HasPlainAnimation wheelTurning.computed.style := by
    rintro a ⟨⟩
    exact ⟨_, rfl, .inr ⟨'s', by decide, by decide⟩⟩
  have hs : new wheel wheelDocument (.new [] false) (fun _ => 0.5) ⟨0, 0, []⟩ = wheelStart := rfl
  have ht : wheelStart.tick = (none, wheelStart.tick.2) := tick_of_returns hreturns
  obtain ⟨c, live, hc, -, hlive, hwrites, hreflows⟩ :=
    first_tick_writes_nothing hids hsteady hdocument hclock hfinite hs ht hpage List.mem_cons_self
  cases hc.symm.trans halone
  exact ⟨hdocument, hreturns, rfl, live, hlive, hwrites, hreflows hplain⟩

/-- The wheel with a script that says whether no time has passed. -/
def stopwatch : Project :=
  { wheel with
    scripts := [
      ⟨[⟨"timer", "TIMER", []⟩, ⟨"zero", "NUMBER", [("value", .int 0)]⟩, ⟨"same", "EQUAL", []⟩,
          ⟨"text", "CONCAT", []⟩, ⟨"out", "OUTPUT", []⟩],
        [⟨"timer", "same", "in-a"⟩, ⟨"zero", "same", "in-b"⟩, ⟨"same", "text", "in-a"⟩,
          ⟨"text", "out", "in-content"⟩], .str "turn", .null⟩] }

/-- The stopwatch as it is at first. -/
def stopwatchDocument : Document :=
  ⟨[("wheel", ⟨"true", [], true, 0, 0⟩)], [.str "home"]⟩

/-- **A clock that reads infinity has no start**: what has passed since is not a number, and then
the first tick can write a text. -/
theorem first_tick_writes_at_infinity :
    ¬∀ (project : Project) (processors : List Processor) (document : Document)
      (samples : Nat → Float) (clock : Clock) (element : Element) (s t : Session),
      (project.elements.map (·.id)).Nodup → project.IsSteady →
      Document.ofProject project = .ok document → clock.IsConstant →
      new project document (.new processors false) samples clock = s → s.tick = (none, t) →
      t.state.page = s.state.page → element ∈ project.elements →
      ∃ live, t.document.element? element.id = some live ∧ live.textWrites = 0 := by
  intro hall
  let clock : Clock := ⟨Double.infinity false, 0, []⟩
  let s : Session := new stopwatch stopwatchDocument (.new [] false) (fun _ => 0.5) clock
  have hids : (stopwatch.elements.map (·.id)).Nodup := by decide
  have hsteady : stopwatch.IsSteady := by decide +kernel
  have hdocument : Document.ofProject stopwatch = .ok stopwatchDocument := by decide +kernel
  have hclock : clock.IsConstant := by decide +kernel
  have hreturns : s.tick.1 = none := by decide +kernel
  have hpage : s.tick.2.state.page = s.state.page := by decide +kernel
  have hwritten : s.tick.2.document.element? wheelElement.id = some ⟨"", [], true, 1, 0⟩ := by
    decide +kernel
  obtain ⟨live, hlive, hwrites⟩ := hall stopwatch [] stopwatchDocument (fun _ => 0.5) clock
    wheelElement s s.tick.2 hids hsteady hdocument hclock rfl (tick_of_returns hreturns) hpage
    List.mem_cons_self
  obtain rfl : ⟨"", [], true, 1, 0⟩ = live := Option.some.inj (hwritten.symm.trans hlive)
  cases hwrites

end Session

end DesignGraph
