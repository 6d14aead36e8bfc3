import DesignGraph.Live.Session
import Mathlib.Tactic.Common
/-!
# What operations leave alone

Each operation of a session changes little of it. Setting the time touches no element, a visit none
but its own, and a page that comes to be shown neither clock nor project. Here it is said once what
an operation that returns has done.

## Main definitions

* `DesignGraph.Session.shown` — the elements that the next tick visits.
* `DesignGraph.Session.Mounts` — an element is on the screen.
* `DesignGraph.Session.SameFor` — nothing has changed for an element.

## Main results

* `DesignGraph.Session.setTime_frame` — what setting the time changes.
* `DesignGraph.Session.visit_ok`, `DesignGraph.Session.visit_absorbs` — what a visit does.
* `DesignGraph.Session.visit_frame`, `DesignGraph.Session.visitAll_frame` — what a visit and a pass
  change.
* `DesignGraph.Session.navigateTo_frame` — what showing another page changes.
* `DesignGraph.Session.tick_ok` — the parts of a tick.
-/

set_option relaxedAutoImplicit false
set_option autoImplicit false

namespace DesignGraph

/-- An element is shown in its new form, and all others as they were. -/
lemma Document.element?_put (document : Document) (id id' : String) (live : LiveElement) :
    (document.put id live).element? id' = if id = id' then some live else document.element? id' :=
  Fields.get?_put document.elements id id' live

/-- Adopting animations changes which ones are tracked, and nothing else. -/
lemma LiveState.adopt_frame (document : Document) (elements : List Element) (state : LiveState) :
    ∃ animations,
      elements.foldl (adopt document) state = { state with animations := animations } := by
  induction elements generalizing state with
  | nil => exact ⟨state.animations, rfl⟩
  | cons element rest ih =>
    have hfirst : ∃ animations, adopt document state element =
        { state with animations := animations } := by
      unfold adopt
      split
      · exact ⟨state.animations, rfl⟩
      · split_ifs
        · exact ⟨_, rfl⟩
        · exact ⟨state.animations, rfl⟩
    obtain ⟨animations, hfirst⟩ := hfirst
    rw [List.foldl_cons, hfirst]
    exact ih { state with animations := animations }

/-- Forgetting elements changes hovers, clicks and tracked animations and takes the triggers of these
elements away, and nothing else. -/
lemma LiveState.forget_frame (elements : List Element) (state : LiveState) :
    ∃ hovers clicks animations,
      elements.foldl (fun state element => state.forget element.id) state = { state with
        hovers := hovers
        clicks := clicks
        triggers := elements.foldl (fun triggers element => Fields.erase element.id triggers)
          state.triggers
        animations := animations } := by
  induction elements generalizing state with
  | nil => exact ⟨state.hovers, state.clicks, state.animations, rfl⟩
  | cons element rest ih => exact ih (state.forget element.id)

/-- Hovering changes the hovers and nothing else. -/
lemma LiveState.hover_frame {id : Value} {isOver : Bool} {state state' : LiveState}
    (h : state.hover id isOver = .ok state') : ∃ hovers, state' = { state with hovers := hovers } := by
  rw [hover] at h
  rcases hkey : id.asKey with _ | key
  · rw [hkey] at h
    cases h
  · rw [hkey] at h
    cases h
    exact ⟨_, rfl⟩

/-- Clicking changes the clicks and nothing else. -/
lemma LiveState.click_frame {id : Value} {state state' : LiveState}
    (h : state.click id = .ok state') : ∃ clicks, state' = { state with clicks := clicks } := by
  rw [click] at h
  rcases hkey : id.asKey with _ | key
  · rw [hkey] at h
    cases h
  · rw [hkey] at h
    cases h
    exact ⟨_, rfl⟩

namespace Session

variable {element : Element} {s s' : Session}

/-! ## Setting the time -/

/-- Mounting fixes the start and changes which animations are tracked. -/
lemma mount_frame (s : Session) :
    ∃ animations, s.mount = { s with
      start := some s.readClock.1
      clock := s.readClock.2.clock
      state := { s.state with animations := animations } } := by
  obtain ⟨animations, hadopted⟩ := LiveState.adopt_frame s.document s.project.elements s.state
  refine ⟨animations, ?_⟩
  rw [← hadopted]
  rfl

/-- **All that setting the time changes**: the time, the clock, and at first what mounting does. -/
lemma setTime_frame (s : Session) :
    ∃ start animations time clock, s.setTime = { s with
      start := some start
      clock := clock
      state := { s.state with time := time, animations := animations } } := by
  have hstarted : ∃ start animations clock, (if s.start.isNone then s.mount else s) = { s with
      start := some start
      clock := clock
      state := { s.state with animations := animations } } := by
    by_cases hstart : s.start.isNone
    · obtain ⟨animations, hmounted⟩ := mount_frame s
      rw [if_pos hstart, hmounted]
      exact ⟨_, animations, _, rfl⟩
    · obtain ⟨start, hstart'⟩ := Option.ne_none_iff_exists'.1 (by simpa using hstart)
      rw [if_neg hstart]
      refine ⟨start, s.state.animations, s.clock, ?_⟩
      rw [← hstart']
  obtain ⟨start, animations, clock, hstarted⟩ := hstarted
  rw [setTime, hstarted]
  exact ⟨start, animations, _, _, rfl⟩

/-- The elements that the next tick visits. -/
def shown (s : Session) : List Element :=
  s.setTime.project.elementsOn s.setTime.state.page

/-! ## Visits -/

/-- Bringing an element in line changes how it shows and which animation is tracked of it, and
nothing else. -/
lemma apply_frame (element : Element) (live : LiveElement) (c : Composition) (s : Session) :
    ∃ live' animations,
      (∀ id, id ≠ element.id → Fields.get? animations id = Fields.get? s.state.animations id) ∧
      (s.apply element live c).2 =
        { s with
          document := s.document.put element.id live'
          state := { s.state with animations := animations } } := by
  have hput (v : Value) (id : String) (hid : id ≠ element.id) :
      Fields.get? (Fields.put element.id v s.state.animations) id =
        Fields.get? s.state.animations id := by
    rw [Fields.get?_put, if_neg (Ne.symm hid)]
  rw [apply]
  dsimp only
  split
  case h_1 fault live' _ => exact ⟨live', s.state.animations, fun _ _ => rfl, rfl⟩
  case h_2 live' _ =>
    split
    case h_1 => exact ⟨live', s.state.animations, fun _ _ => rfl, rfl⟩
    case h_2 desired _ =>
      rw [applyAnimation]
      split_ifs
      · exact ⟨live', s.state.animations, fun _ _ => rfl, rfl⟩
      · dsimp only
        split
        case h_1 live'' _ => exact ⟨live'', _, hput desired, rfl⟩
        case h_2 fault _ => exact ⟨live', _, hput desired, rfl⟩

/-- An element is on the screen. -/
def Mounts (s : Session) (element : Element) : Prop :=
  ∃ live, s.document.element? element.id = some live ∧ live.mounted = true

/-- **All that a visit does** when it succeeds: nothing, if the element is not on the screen; else
the element is composed, and brought in line if it has graphs. -/
lemma visit_ok (h : s.visit element = (none, s')) :
    ¬s.Mounts element ∧ s' = s ∨
    ∃ live c p, s.document.element? element.id = some live ∧ live.mounted = true ∧
      Composition.compose (s.setting element) (s.progress element) = (.ok c, p) ∧
      (if c.dynamic then (s.absorb element.id p).apply element live c
        else (none, s.absorb element.id p)) = (none, s') := by
  rw [visit] at h
  rcases hlive : s.document.element? element.id with _ | live
  · simp only [hlive] at h
    cases h
    refine .inl ⟨?_, rfl⟩
    rintro ⟨_, hsome, -⟩
    cases hlive.symm.trans hsome
  simp only [hlive] at h
  cases hmounted : live.mounted with
  | false =>
    rw [hmounted] at h
    cases h
    refine .inl ⟨?_, rfl⟩
    rintro ⟨_, hsome, hmounts⟩
    cases hlive.symm.trans hsome
    exact Bool.false_ne_true (hmounted.symm.trans hmounts)
  | true =>
    rw [hmounted] at h
    rcases hcompose : Composition.compose (s.setting element) (s.progress element) with
      ⟨fault | c, p⟩
    · simp only [hcompose] at h
      cases h
    · simp only [hcompose] at h
      exact .inr ⟨live, c, p, rfl, hmounted, rfl, h⟩

/-- **All that a visit changes besides what its composition does**: how its element shows, and which
animation is tracked of it. -/
lemma visit_absorbs (h : s.visit element = (none, s')) :
    ¬s.Mounts element ∧ s' = s ∨
    ∃ live c p document animations, s.document.element? element.id = some live ∧
      live.mounted = true ∧
      Composition.compose (s.setting element) (s.progress element) = (.ok c, p) ∧
      (∀ id, id ≠ element.id → document.element? id = s.document.element? id ∧
        Fields.get? animations id = Fields.get? s.state.animations id) ∧
      s' = { s.absorb element.id p with
        document := document
        state := { (s.absorb element.id p).state with animations := animations } } := by
  rcases visit_ok h with hnone | ⟨live, c, p, hlive, hmounted, hcompose, hend⟩
  · exact .inl hnone
  refine .inr ⟨live, c, p, ?_⟩
  split_ifs at hend
  · obtain ⟨live', animations, hothers, hframe⟩ :=
      apply_frame element live c (s.absorb element.id p)
    obtain rfl : _ = s' := hframe.symm.trans (congrArg Prod.snd hend)
    refine ⟨_, animations, hlive, hmounted, hcompose, fun id hid => ⟨?_, hothers id hid⟩, rfl⟩
    rw [Document.element?_put, if_neg (Ne.symm hid)]
    rfl
  · cases hend
    exact ⟨_, _, hlive, hmounted, hcompose, fun _ _ => ⟨rfl, rfl⟩, rfl⟩

/-- What the composition of an element depends on, and how the element shows, are the same. -/
structure SameFor (id : String) (s s' : Session) : Prop where
  project : s'.project = s.project
  samples : s'.samples = s.samples
  context : s'.state.context id = s.state.context id
  document : s'.document.element? id = s.document.element? id
  triggers : Fields.get? s'.state.triggers id = Fields.get? s.state.triggers id
  animations : Fields.get? s'.state.animations id = Fields.get? s.state.animations id

lemma SameFor.refl (id : String) (s : Session) : SameFor id s s :=
  ⟨rfl, rfl, rfl, rfl, rfl, rfl⟩

lemma SameFor.trans {id : String} {s'' : Session} (h : SameFor id s s') (h' : SameFor id s' s'') :
    SameFor id s s'' where
  project := h'.project.trans h.project
  samples := h'.samples.trans h.samples
  context := h'.context.trans h.context
  document := h'.document.trans h.document
  triggers := h'.triggers.trans h.triggers
  animations := h'.animations.trans h.animations

/-- **All that a visit changes.** -/
lemma visit_frame (h : s.visit element = (none, s')) :
    (∃ drawn document triggers animations pendingPage dispatcher, s' =
      { s with
        drawn := drawn, document := document, pendingPage := pendingPage, dispatcher := dispatcher
        state := { s.state with triggers := triggers, animations := animations } }) ∧
    ∀ id, id ≠ element.id → SameFor id s s' := by
  rcases visit_absorbs h with ⟨-, rfl⟩ | ⟨live, c, p, document, animations, -, -, -, hothers, rfl⟩
  · exact ⟨⟨_, _, _, _, _, _, rfl⟩, fun id _ => .refl id s'⟩
  refine ⟨⟨_, _, _, _, _, _, rfl⟩, fun id hid => ?_⟩
  obtain ⟨hdocument, hanimations⟩ := hothers id hid
  refine ⟨rfl, rfl, rfl, hdocument, ?_, hanimations⟩
  rw [absorb, Fields.get?_put, if_neg (Ne.symm hid)]

/-! ## Passes -/

/-- A pass that succeeds visits its first element, then the others. -/
lemma visitAll_cons {rest : List Element} (h : visitAll (element :: rest) s = (none, s')) :
    ∃ s₁, s.visit element = (none, s₁) ∧ visitAll rest s₁ = (none, s') := by
  rw [visitAll] at h
  rcases hvisit : s.visit element with ⟨_ | fault, s₁⟩
  · rw [hvisit] at h
    exact ⟨s₁, rfl, h⟩
  · rw [hvisit] at h
    cases h

/-- A pass goes through its first elements, then through the others. -/
lemma visitAll_append {earlier later : List Element}
    (h : visitAll (earlier ++ later) s = (none, s')) :
    ∃ middle, visitAll earlier s = (none, middle) ∧ visitAll later middle = (none, s') := by
  induction earlier generalizing s with
  | nil => exact ⟨s, rfl, h⟩
  | cons element rest ih =>
    obtain ⟨s₁, hvisit, hrest⟩ := visitAll_cons h
    obtain ⟨middle, hearlier, hlater⟩ := ih hrest
    refine ⟨middle, ?_, hlater⟩
    rw [visitAll, hvisit]
    exact hearlier

/-- **All that a pass changes.** -/
lemma visitAll_frame {elements : List Element} (h : visitAll elements s = (none, s')) :
    (∃ drawn document triggers animations pendingPage dispatcher, s' =
      { s with
        drawn := drawn, document := document, pendingPage := pendingPage, dispatcher := dispatcher
        state := { s.state with triggers := triggers, animations := animations } }) ∧
    ∀ id, id ∉ elements.map (·.id) → SameFor id s s' := by
  induction elements generalizing s with
  | nil =>
    cases h
    exact ⟨⟨_, _, _, _, _, _, rfl⟩, fun id _ => .refl id _⟩
  | cons element rest ih =>
    obtain ⟨s₁, hvisit, hrest⟩ := visitAll_cons h
    obtain ⟨⟨_, _, _, _, _, _, rfl⟩, hfirst⟩ := visit_frame hvisit
    obtain ⟨⟨_, _, _, _, _, _, rfl⟩, hothers⟩ := ih hrest
    refine ⟨⟨_, _, _, _, _, _, rfl⟩, fun id hid => ?_⟩
    obtain ⟨hne, hid⟩ := not_or.1 (mt List.mem_cons.2 hid)
    exact (hfirst id hne).trans (hothers id hid)

/-! ## Navigation -/

/-- Restarting animations changes how elements show and which animations are tracked, and nothing
else. -/
lemma restart_frame (elements : List Element) (s : Session) :
    ∃ shown animations, elements.foldl restart s = { s with
      document := { s.document with elements := shown }
      state := { s.state with animations := animations } } := by
  induction elements generalizing s with
  | nil => exact ⟨s.document.elements, s.state.animations, rfl⟩
  | cons element rest ih =>
    have hfirst : ∃ shown animations, s.restart element = { s with
        document := { s.document with elements := shown }
        state := { s.state with animations := animations } } := by
      unfold restart
      split
      · exact ⟨s.document.elements, s.state.animations, rfl⟩
      · split_ifs
        · exact ⟨_, _, rfl⟩
        · exact ⟨s.document.elements, s.state.animations, rfl⟩
    obtain ⟨shown, animations, hfirst⟩ := hfirst
    obtain ⟨shown', animations', hrest⟩ := ih (s.restart element)
    refine ⟨shown', animations', ?_⟩
    rw [List.foldl_cons, hrest, hfirst]

/-- **All that showing another page does**: the elements of the page that is left are forgotten, all
processors hear of the change, and animations are restarted. -/
lemma navigateTo_frame {page : Value} (hequals : s.state.page.equals page = false)
    (h : s.navigateTo page = (none, s')) :
    ∃ document animations, s' = { s with
      document := document
      state := { s.leavePage.state with page := page, animations := animations }
      dispatcher := (s.dispatcher.deliver (.pageChanged s.state.page page)).2 } := by
  unfold navigateTo at h
  dsimp only at h
  rw [hequals] at h
  rcases hshow : s.leavePage.document.showPage page with fault | document
  · rw [hshow] at h
    cases h
  rw [hshow] at h
  let moved : Session := { s.leavePage with
    document := document, state := { s.leavePage.state with page := page } }
  obtain ⟨shown, animations, hframe⟩ :=
    restart_frame (s.leavePage.project.elementsOn page) moved
  have hs' : s' = { (s.leavePage.project.elementsOn page).foldl restart moved with
      dispatcher := (((s.leavePage.project.elementsOn page).foldl restart moved).dispatcher.deliver
        (.pageChanged s.state.page page)).2 } := (congrArg Prod.snd h).symm
  refine ⟨{ document with elements := shown }, animations, ?_⟩
  rw [hs', hframe]
  rfl

/-! ## Ticks -/

/-- A tick that succeeds has passed over the shown page, delivered the alerts and followed the
request for a page, if any. -/
lemma tick_ok (h : s.tick = (none, s')) :
    ∃ passed n dispatcher, visitAll s.shown s.setTime = (none, passed) ∧
      passed.dispatcher.flush = (.ok n, dispatcher) ∧
      { passed with dispatcher := dispatcher, frame := passed.frame + 1 }.followRequest =
        (none, s') := by
  rw [tick, ← shown] at h
  rcases hall : visitAll s.shown s.setTime with ⟨_ | fault, passed⟩
  swap
  · rw [hall] at h
    cases h
  simp only [hall, flush] at h
  rcases hd : passed.dispatcher.flush with ⟨_ | n, dispatcher⟩
  · rw [hd] at h
    cases h
  · rw [hd] at h
    exact ⟨passed, n, dispatcher, rfl, hd, h⟩

end Session

end DesignGraph
