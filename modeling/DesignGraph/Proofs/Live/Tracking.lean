import DesignGraph.Proofs.Live.Apply
import DesignGraph.Proofs.Live.Frame
/-!
# Tracked animations

A session remembers which animation an element was last made to play, and compares with that
instead of looking at the element. This is sound since all that a session does keeps the two in
agreement: whatever is tracked shows. Mounting and coming to a page track what shows, a tick shows
what it tracks, and leaving a page forgets.

## Main definitions

* `DesignGraph.Document.TracksAll` — whatever is tracked shows.
* `DesignGraph.Session.Steady` — a session of a project in which this holds.
* `DesignGraph.Session.composed` — the composition with which a visit brings an element in line.
* `DesignGraph.Session.HasTextAnimations` — computed animations are texts throughout a pass.

## Main results

* `DesignGraph.Session.visit_spec` — a visit keeps the session steady, and its element follows.
* `DesignGraph.Session.Steady.receive` — every input keeps the session steady.
-/

set_option relaxedAutoImplicit false
set_option autoImplicit false

namespace DesignGraph

open LiveElement

namespace Document

/-- Whatever animation is tracked, its element is on the screen and shows it. -/
def TracksAll (document : Document) (animations : Fields) : Prop :=
  ∀ id a, Fields.get? animations id = some a → ∃ live, document.element? id = some live ∧
    Fields.get? live.style "animation" = some (shownAnimation a)

section TracksAll

variable {document document' : Document} {animations animations' : Fields} {id : String}
  {live : LiveElement}

/-- On the screen, an element shows what is tracked of it. -/
lemma TracksAll.tracks (h : document.TracksAll animations)
    (hlive : document.element? id = some live) :
    Tracks (Fields.get? animations id) live := by
  intro a ha
  obtain ⟨live', hlive', hshown⟩ := h id a ha
  cases hlive.symm.trans hlive'
  exact hshown

/-- Showing an element in a form that is tracked rightly keeps all others tracked. -/
lemma TracksAll.put (h : document.TracksAll animations)
    (hlive : Tracks (Fields.get? animations' id) live)
    (hothers : ∀ other, other ≠ id → Fields.get? animations' other = Fields.get? animations other) :
    (document.put id live).TracksAll animations' := by
  intro other a ha
  rw [element?_put]
  by_cases hid : id = other
  · subst hid
    exact ⟨live, if_pos rfl, hlive a ha⟩
  · rw [if_neg hid]
    exact h other a ((hothers other (Ne.symm hid)).symm.trans ha)

/-- Fewer animations may be tracked, and pages may come and go. -/
lemma TracksAll.mono (h : document.TracksAll animations)
    (helements : document'.elements = document.elements)
    (hsub : ∀ id a, Fields.get? animations' id = some a → Fields.get? animations id = some a) :
    document'.TracksAll animations' := by
  intro id a ha
  obtain ⟨live, hlive, hshown⟩ := h id a (hsub id a ha)
  refine ⟨live, ?_, hshown⟩
  rw [element?, helements]
  exact hlive

end TracksAll

/-- Showing a page touches no element. -/
lemma elements_of_showPage {document document' : Document} {page : Value}
    (h : document.showPage page = .ok document') : document'.elements = document.elements := by
  rw [showPage] at h
  rcases hkey : page.asKey with _ | key
  · rw [hkey] at h
    cases h
  · simp only [hkey, bind, Except.bind, pure, Except.pure] at h
    split_ifs at h <;> cases h <;> rfl

end Document

namespace LiveElement

/-- An animation that plays is an entry of the style. -/
lemma get?_of_plays {live : LiveElement} (h : plays live.animation = true) :
    Fields.get? live.style "animation" = some live.animation := by
  rw [animation, Fields.get] at h ⊢
  rcases hstyle : Fields.get? live.style "animation" with _ | a
  · rw [hstyle] at h
    exact absurd h (by decide)
  · rfl

/-- An animation that plays is tracked rightly. -/
lemma tracks_of_plays {live : LiveElement} (h : plays live.animation = true) :
    Tracks (some live.animation) live := by
  rintro _ ⟨⟩
  rw [shownAnimation, if_pos h]
  exact get?_of_plays h

/-- An animation that is played again is tracked rightly. -/
lemma tracks_of_play {a : Value} (h : plays a = true) (live : LiveElement) :
    Tracks (some a) (live.play a) := by
  rintro _ ⟨⟩
  rw [shownAnimation, if_pos h]
  exact (get?_setStyle "animation" "animation" a live).trans (if_pos rfl)

end LiveElement

namespace LiveState

open Document

/-- Adopting an animation tracks what shows. -/
lemma tracksAll_adopt {document : Document} {state : LiveState} (element : Element)
    (h : document.TracksAll state.animations) :
    document.TracksAll (adopt document state element).animations := by
  unfold adopt
  split
  case h_1 => exact h
  case h_2 live hlive =>
    split_ifs with hplays
    · have htracks := tracks_of_plays (Bool.and_eq_true_iff.1 hplays).1
      intro id a ha
      rw [Fields.get?_put] at ha
      split_ifs at ha with hid
      · subst hid
        exact ⟨live, hlive, htracks a ha⟩
      · exact h id a ha
    · exact h

/-- Forgetting elements tracks less. -/
lemma get?_animations_forget {elements : List Element} {state : LiveState} {id : String} {a : Value}
    (h : Fields.get? (elements.foldl (fun st e => st.forget e.id) state).animations id = some a) :
    Fields.get? state.animations id = some a := by
  induction elements generalizing state with
  | nil => exact h
  | cons element rest ih =>
    have hforget : Fields.get? (Fields.erase element.id state.animations) id = some a := ih h
    rw [Fields.get?_erase] at hforget
    split_ifs at hforget
    exact hforget

end LiveState

/-- Whether an input is a whole run, which ticks many times. -/
def Input.isRun : Input → Bool
  | .run .. => true
  | _ => false

namespace Session

open Document

/-- A session of the project in which whatever is tracked shows. -/
structure Steady (project : Project) (s : Session) : Prop where
  project : s.project = project
  tracked : s.document.TracksAll s.state.animations

section Steady

variable {project : Project} {s s' : Session}

/-- A session is as steady as another one with the same elements and tracked animations. -/
lemma Steady.congr (h : Steady project s) (hproject : s'.project = s.project)
    (helements : s'.document.elements = s.document.elements)
    (hanimations : s'.state.animations = s.state.animations) : Steady project s' := by
  refine ⟨hproject.trans h.project, h.tracked.mono helements fun id a ha => ?_⟩
  rwa [hanimations] at ha

/-! ## Mounting and navigation -/

/-- A session that starts tracks nothing. -/
lemma steady_new (project : Project) (document : Document) (dispatcher : Dispatcher)
    (samples : Nat → Float) (clock : Clock) :
    Steady project (new project document dispatcher samples clock) :=
  ⟨rfl, fun _ _ => nofun⟩

/-- Mounting keeps a session steady. -/
lemma Steady.mount (h : Steady project s) : Steady project s.mount := by
  refine ⟨h.project, ?_⟩
  change s.document.TracksAll
    (s.project.elements.foldl (LiveState.adopt s.document) s.state).animations
  have htracked := h.tracked
  generalize s.state = state at htracked
  induction s.project.elements generalizing state with
  | nil => exact htracked
  | cons element rest ih => exact ih _ (LiveState.tracksAll_adopt element htracked)

/-- Leaving a page keeps a session steady. -/
lemma Steady.leavePage (h : Steady project s) : Steady project s.leavePage := by
  refine ⟨h.project, h.tracked.mono ?_ fun id a ha => LiveState.get?_animations_forget ha⟩
  rw [Session.leavePage]
  split_ifs <;> rfl

/-- Restarting the animation of an element keeps a session steady. -/
lemma Steady.restart (h : Steady project s) (element : Element) :
    Steady project (s.restart element) := by
  unfold Session.restart
  split
  case h_1 => exact h
  case h_2 live hlive =>
    split_ifs with hplays
    · refine ⟨h.project, h.tracked.put ?_ fun other hother => ?_⟩
      · rw [Fields.get?_put, if_pos rfl]
        exact tracks_of_play hplays live
      · rw [Fields.get?_put, if_neg (Ne.symm hother)]
    · exact h

/-- Showing another page keeps a session steady. -/
lemma Steady.navigateTo (h : Steady project s) (page : Value) :
    Steady project (s.navigateTo page).2 := by
  have hrestarts {elements : List Element} {s : Session} (h : Steady project s) :
      Steady project (elements.foldl Session.restart s) := by
    induction elements generalizing s with
    | nil => exact h
    | cons element rest ih => exact ih (h.restart element)
  unfold Session.navigateTo
  dsimp only
  split_ifs
  · exact h
  split
  case h_1 => exact h.leavePage
  case h_2 document hshow =>
    have hshown : Steady project { s.leavePage with
        document := document, state := { s.leavePage.state with page := page } } :=
      h.leavePage.congr rfl (elements_of_showPage hshow) rfl
    exact (hrestarts hshown).congr rfl rfl rfl

/-! ## Visits -/

/-- The composition with which a visit brings an element in line, if the element is on the screen
and its graphs can be evaluated. -/
def composed (s : Session) (element : Element) : Option Composition :=
  match s.document.element? element.id with
  | none => none
  | some live =>
    if live.mounted then (Composition.compose (s.setting element) (s.progress element)).1.toOption
    else none

/-- An element with a composition is on the screen. -/
lemma mounts_of_composed {element : Element} {c : Composition} (hc : s.composed element = some c) :
    s.Mounts element := by
  rcases hlive : s.document.element? element.id with _ | live
  · simp [composed, hlive] at hc
  · refine ⟨live, hlive, ?_⟩
    by_contra hmounted
    simp [composed, hlive, hmounted] at hc

/-- An element on the screen has the composition that its graphs lead to. -/
lemma composed_eq {element : Element} {live : LiveElement} {c : Composition}
    {p : Composition.Progress Outlet} (hlive : s.document.element? element.id = some live)
    (hmounted : live.mounted = true)
    (hcompose : Composition.compose (s.setting element) (s.progress element) = (.ok c, p)) :
    s.composed element = some c := by
  simp [composed, hlive, hmounted, hcompose, Except.toOption]

/-- What a visit of an element does: what shows and is tracked of other elements stays, and the
element follows its composition. -/
structure Visits (element : Element) (s s' : Session) : Prop where
  document : ∀ id, id ≠ element.id → s'.document.element? id = s.document.element? id
  animations : ∀ id, id ≠ element.id →
    Fields.get? s'.state.animations id = Fields.get? s.state.animations id
  follows : ∀ c, s.composed element = some c → c.dynamic = true →
    ∃ live live', s.document.element? element.id = some live ∧
      s'.document.element? element.id = some live' ∧
      Follows element c (Fields.get? s.state.animations element.id) live live'

/-- **A visit keeps the session steady, and its element follows its composition.** -/
theorem visit_spec {element : Element} (hs : Steady project s)
    (htext : ∀ c, s.composed element = some c → c.HasTextAnimation)
    (h : s.visit element = (none, s')) : Steady project s' ∧ Visits element s s' := by
  obtain ⟨-, hothers⟩ := visit_frame h
  suffices hvisited : Steady project s' ∧ ∀ c, s.composed element = some c → c.dynamic = true →
      ∃ live live', s.document.element? element.id = some live ∧
        s'.document.element? element.id = some live' ∧
        Follows element c (Fields.get? s.state.animations element.id) live live' from
    ⟨hvisited.1, fun id hid => (hothers id hid).document,
      fun id hid => (hothers id hid).animations, hvisited.2⟩
  rcases visit_ok h with ⟨hnot, rfl⟩ | ⟨live, c, p, hlive, hmounted, hcompose, hend⟩
  · exact ⟨hs, fun c hc => absurd (mounts_of_composed hc) hnot⟩
  have hc : s.composed element = some c := composed_eq hlive hmounted hcompose
  have habsorbed : Steady project (s.absorb element.id p) := hs.congr rfl rfl rfl
  split_ifs at hend with hdynamic
  · obtain ⟨live', rfl, hfollows, htracks⟩ :=
      apply_spec hend (htext c hc) (habsorbed.tracked.tracks hlive)
    refine ⟨⟨hs.project, hs.tracked.put htracks fun other hother => ?_⟩, fun c' hc' _ => ?_⟩
    · exact get?_trackedAfter_of_ne hother c s.state.animations
    · cases hc.symm.trans hc'
      exact ⟨live, live', hlive, (element?_put ..).trans (if_pos rfl), hfollows⟩
  · cases hend
    refine ⟨habsorbed, fun c' hc' hdynamic' => ?_⟩
    cases hc.symm.trans hc'
    exact absurd hdynamic' hdynamic

/-! ## Passes and inputs -/

/-- In a pass over elements, every computed animation is a text. -/
inductive HasTextAnimations : List Element → Session → Prop
  | nil {s : Session} : HasTextAnimations [] s
  | cons {element : Element} {rest : List Element} {s : Session}
    (hfirst : ∀ c, s.composed element = some c → c.HasTextAnimation)
    (hrest : HasTextAnimations rest (s.visit element).2) : HasTextAnimations (element :: rest) s

/-- A pass keeps the session steady. -/
lemma Steady.visitAll {elements : List Element} (hs : Steady project s)
    (htext : HasTextAnimations elements s) (h : visitAll elements s = (none, s')) :
    Steady project s' := by
  induction elements generalizing s with
  | nil =>
    cases h
    exact hs
  | cons element rest ih =>
    obtain ⟨s₁, hvisit, hrest⟩ := visitAll_cons h
    obtain _ | ⟨hfirst, htextRest⟩ := htext
    rw [hvisit] at htextRest
    exact ih (visit_spec hs hfirst hvisit).1 htextRest hrest

/-- Setting the time, which mounts a session at first, keeps it steady. -/
lemma Steady.setTime (h : Steady project s) : Steady project s.setTime := by
  unfold Session.setTime
  by_cases hstart : s.start.isNone
  · rw [if_pos hstart]
    exact h.mount.congr rfl rfl rfl
  · rw [if_neg hstart]
    exact h.congr rfl rfl rfl

/-- A tick that succeeds keeps the session steady. -/
lemma Steady.tick (h : Steady project s) (htext : HasTextAnimations s.shown s.setTime)
    (ht : s.tick = (none, s')) : Steady project s' := by
  obtain ⟨passed, n, dispatcher, hall, -, hfollow⟩ := tick_ok ht
  have hpassed : Steady project passed := h.setTime.visitAll htext hall
  rw [followRequest] at hfollow
  split_ifs at hfollow
  · cases hfollow
    exact hpassed.congr rfl rfl rfl
  · have hcounted : Steady project
        { passed with
          dispatcher := dispatcher, frame := passed.frame + 1, pendingPage := .null } :=
      hpassed.congr rfl rfl rfl
    have hnavigated := hcounted.navigateTo passed.pendingPage
    rwa [hfollow] at hnavigated

/-- A change of the state that leaves the tracked animations alone keeps a session steady. -/
lemma Steady.setState (h : Steady project s) {changed : Except Fault LiveState}
    (hanimations : ∀ state, changed = .ok state → state.animations = s.state.animations) :
    Steady project (s.setState changed).2 := by
  rcases changed with fault | state
  · exact h
  · exact h.congr rfl rfl (hanimations state rfl)

/-- Hovering leaves the tracked animations alone. -/
lemma animations_of_hover {id : Value} {isOver : Bool} {state state' : LiveState}
    (h : state.hover id isOver = .ok state') : state'.animations = state.animations := by
  obtain ⟨_, rfl⟩ := LiveState.hover_frame h
  rfl

/-- Clicking leaves the tracked animations alone. -/
lemma animations_of_click {id : Value} {state state' : LiveState}
    (h : state.click id = .ok state') : state'.animations = state.animations := by
  obtain ⟨_, rfl⟩ := LiveState.click_frame h
  rfl

/-- **Every input that succeeds keeps the session steady**, a tick if the animations that it
computes are texts. Whole runs, which tick many times, are left out. -/
theorem Steady.receive (h : Steady project s) {input : Input} (hinput : input.isRun = false)
    (htext : input = .tick → HasTextAnimations s.shown s.setTime)
    (hr : s.receive input = (none, s')) : Steady project s' := by
  obtain rfl : (s.receive input).2 = s' := congrArg Prod.snd hr
  cases input with
  | mount => exact h.mount
  | tick => exact h.tick (htext rfl) hr
  | run => cases hinput
  | stop => exact h.congr rfl rfl rfl
  | close =>
    change Steady project s.close.2
    rw [close]
    split_ifs <;> exact h.congr rfl rfl rfl
  | pointerEnter id => exact h.setState fun _ => animations_of_hover
  | pointerLeave id => exact h.setState fun _ => animations_of_hover
  | click id => exact h.setState fun _ => animations_of_click
  | requestNavigation page => exact h.congr rfl rfl rfl
  | navigateTo page => exact h.navigateTo page
  | advance seconds => exact h.congr rfl rfl rfl

end Steady

end Session

end DesignGraph
