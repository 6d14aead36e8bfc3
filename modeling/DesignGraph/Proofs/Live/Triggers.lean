import DesignGraph.Proofs.Composition.Calls
import DesignGraph.Proofs.Live.Pass
/-!
# Triggers in a session

A session remembers triggers for every element of the shown page, from the tick in which the page
comes to be shown to the one in which it is left. Within an element they are remembered under the
bare ids of nodes. An action therefore fires when its own trigger rises from one tick to the next,
provided that no other graph of the element has an action of the same id; else the two overwrite
what the other one looked at, and a trigger that stays true may fire in every tick.

## Main definitions

* `DesignGraph.Session.turnsOf` — the evaluations for an element in the next tick.
* `DesignGraph.Session.Idle` — what happens between ticks and leaves the page and triggers alone.
* `DesignGraph.Session.Stay` — a session with the ticks since it came to its page.
* `DesignGraph.Session.trigger` — the value on the trigger of a node in the next tick.

## Main results

* `DesignGraph.Session.Stay.receive` — every input that succeeds continues a stay.
* `DesignGraph.Session.Stay.settled` — the evaluations during a stay hand on trigger memory.
* `DesignGraph.Session.action_fires_on_remembered_edges` — when an action of an element fires.
-/

set_option relaxedAutoImplicit false
set_option autoImplicit false

namespace DesignGraph

/-- The value of a text that may be absent equals itself. -/
lemma Value.equals_ofText? (text : Option String) :
    (Value.ofText? text).equals (Value.ofText? text) = true := by
  rcases text with _ | t
  · rfl
  · exact Value.equals_str.2 rfl

/-- A page that differs from itself has no elements. -/
lemma Project.elementsOn_eq_nil {project : Project} {page : Value}
    (h : page.equals page = false) : project.elementsOn page = [] := by
  refine List.filter_eq_nil_iff.2 fun element _ hon => ?_
  rw [← of_decide_eq_true hon, Value.equals_ofText?] at h
  cases h

namespace LiveState

/-- Forgetting elements forgets their triggers and no others. -/
lemma get?_triggers_forget (elements : List Element) (state : LiveState) (id : String) :
    Fields.get? (elements.foldl (fun st e => st.forget e.id) state).triggers id =
      if id ∈ elements.map (·.id) then none else Fields.get? state.triggers id := by
  induction elements generalizing state with
  | nil => rfl
  | cons element rest ih =>
    rw [List.foldl_cons, ih, forget, Fields.get?_erase]
    by_cases hid : element.id = id <;> simp [hid, Ne.symm]

end LiveState

namespace Session

variable {s s' : Session}

/-! ## Idle steps -/

/-- What happens to a session and leaves the shown page and triggers alone. -/
structure Idle (s s' : Session) : Prop where
  project : s'.project = s.project
  page : s'.state.page = s.state.page
  triggers : ∀ id, Fields.get? s'.state.triggers id = Fields.get? s.state.triggers id

lemma Idle.triggersOf (h : Idle s s') (id : String) :
    s'.state.triggersOf id = s.state.triggersOf id := by
  rw [LiveState.triggersOf, LiveState.triggersOf, h.triggers]

/-- Mounting is idle. -/
lemma idle_mount (s : Session) : Idle s s.mount := by
  obtain ⟨_, hmounted⟩ := mount_frame s
  rw [hmounted]
  exact ⟨rfl, rfl, fun _ => rfl⟩

/-- Setting the time is idle. -/
lemma idle_setTime (s : Session) : Idle s s.setTime := by
  obtain ⟨_, _, _, _, hset⟩ := setTime_frame s
  rw [hset]
  exact ⟨rfl, rfl, fun _ => rfl⟩

/-- The elements that a tick visits are those of the shown page. -/
lemma shown_eq (s : Session) : s.shown = s.project.elementsOn s.state.page := by
  rw [shown, (idle_setTime s).project, (idle_setTime s).page]

/-! ## Visits -/

/-- The evaluations of an element's graphs when its turn comes. -/
def turn (s : Session) (element : Element) : List (Evaluation.Call Outlet) :=
  match s.document.element? element.id, element.graphs s.project with
  | some live, .ok graphs =>
    if live.mounted then Composition.calls (s.setting element) graphs (s.progress element) else []
  | _, _ => []

/-- An element on the screen has its graphs evaluated. -/
lemma turn_eq {element : Element} {live : LiveElement} {graphs : List Graph}
    (hlive : s.document.element? element.id = some live) (hmounted : live.mounted = true)
    (hgraphs : element.graphs s.project = .ok graphs) :
    s.turn element = Composition.calls (s.setting element) graphs (s.progress element) := by
  simp [turn, hlive, hgraphs, hmounted]

/-- What a visit of an element leaves alone, and the trigger memory that it hands on. -/
structure VisitHands (element : Element) (s s' : Session) : Prop where
  project : s'.project = s.project
  page : s'.state.page = s.state.page
  document : ∀ id, id ≠ element.id → s'.document.element? id = s.document.element? id
  triggers : ∀ id, id ≠ element.id →
    Fields.get? s'.state.triggers id = Fields.get? s.state.triggers id
  handed : Evaluation.Handed (s.state.triggersOf element.id) (s.turn element)
    (s'.state.triggersOf element.id)

/-- An element that is not on the screen has no graphs evaluated. -/
lemma turn_eq_nil {element : Element} (h : ¬s.Mounts element) : s.turn element = [] := by
  rw [turn]
  rcases hlive : s.document.element? element.id with _ | live
  · rfl
  rcases hgraphs : element.graphs s.project with fault | graphs
  · rfl
  · exact if_neg fun hmounted => h ⟨live, hlive, hmounted⟩

/-- **A visit that succeeds hands on trigger memory within its element** and touches no other
one. -/
lemma visit_hands {element : Element} (h : s.visit element = (none, s')) :
    VisitHands element s s' := by
  obtain ⟨⟨_, _, _, _, _, _, hframe⟩, hothers⟩ := visit_frame h
  refine ⟨by rw [hframe], by rw [hframe], fun id hid => (hothers id hid).document,
    fun id hid => (hothers id hid).triggers, ?_⟩
  rcases visit_absorbs h with ⟨hnot, rfl⟩ |
    ⟨live, c, p, _, _, hlive, hmounted, hcompose, -, rfl⟩
  · rw [turn_eq_nil hnot]
    exact .nil
  · obtain ⟨graphs, hgraphs, -, hhanded⟩ := Composition.handed_of_compose rfl hcompose
    rw [turn_eq hlive hmounted hgraphs]
    simpa [absorb, progress, LiveState.triggersOf, Fields.get?_put] using hhanded

/-! ## Passes -/

/-- The evaluations for an element in a pass, in order. -/
def turns (id : String) : List Element → Session → List (Evaluation.Call Outlet)
  | [], _ => []
  | element :: rest, s =>
    (if element.id = id then s.turn element else []) ++ turns id rest (s.visit element).2

/-- What a pass over elements leaves alone, and the trigger memory that it hands on. -/
structure PassHands (elements : List Element) (s s' : Session) : Prop where
  project : s'.project = s.project
  page : s'.state.page = s.state.page
  document : ∀ id, id ∉ elements.map (·.id) → s'.document.element? id = s.document.element? id
  triggers : ∀ id, id ∉ elements.map (·.id) →
    Fields.get? s'.state.triggers id = Fields.get? s.state.triggers id
  handed : ∀ id, Evaluation.Handed (s.state.triggersOf id) (turns id elements s)
    (s'.state.triggersOf id)

/-- **A pass that succeeds hands on trigger memory within each element.** -/
lemma visitAll_hands {elements : List Element} (h : visitAll elements s = (none, s')) :
    PassHands elements s s' := by
  have hhanded (id : String) : Evaluation.Handed (s.state.triggersOf id) (turns id elements s)
      (s'.state.triggersOf id) := by
    induction elements generalizing s with
    | nil =>
      cases h
      exact .nil
    | cons element rest ih =>
      obtain ⟨s₁, hvisit, hall⟩ := visitAll_cons h
      have hfirst := visit_hands hvisit
      rw [turns, hvisit]
      by_cases hid : element.id = id
      · subst hid
        rw [if_pos rfl]
        exact hfirst.handed.append (ih hall)
      · have hsame : s₁.state.triggersOf id = s.state.triggersOf id := by
          rw [LiveState.triggersOf, LiveState.triggersOf, hfirst.triggers id (Ne.symm hid)]
        rw [if_neg hid, List.nil_append, ← hsame]
        exact ih hall
  obtain ⟨⟨_, _, _, _, _, _, hframe⟩, hothers⟩ := visitAll_frame h
  exact ⟨by rw [hframe], by rw [hframe], fun id hid => (hothers id hid).document,
    fun id hid => (hothers id hid).triggers, hhanded⟩

/-- A pass that does not come to an element evaluates nothing for it. -/
lemma turns_eq_nil {id : String} {elements : List Element} (h : id ∉ elements.map (·.id))
    (s : Session) : turns id elements s = [] := by
  induction elements generalizing s with
  | nil => rfl
  | cons element rest ih =>
    obtain ⟨hne, hid⟩ := not_or.1 (mt List.mem_cons.2 h)
    rw [turns, if_neg (Ne.symm hne), List.nil_append, ih hid]

/-- The evaluations in a pass are those in its first part, then those in its second one. -/
lemma turns_append (id : String) {earlier : List Element} (later : List Element)
    {middle : Session} (h : visitAll earlier s = (none, middle)) :
    turns id (earlier ++ later) s = turns id earlier s ++ turns id later middle := by
  induction earlier generalizing s with
  | nil =>
    cases h
    rfl
  | cons element rest ih =>
    obtain ⟨s₁, hvisit, hrest⟩ := visitAll_cons h
    rw [List.cons_append, turns, turns, hvisit, ih hrest, List.append_assoc]

/-! ## Ticks -/

/-- The evaluations for an element in the next tick. -/
def turnsOf (id : String) (s : Session) : List (Evaluation.Call Outlet) :=
  turns id s.shown s.setTime

/-- **All that showing a page can do to triggers**: nothing, if the page is shown already; else the
elements of the page that is left lose theirs. -/
lemma navigateTo_cases {page : Value} (h : s.navigateTo page = (none, s')) :
    s' = s ∨ s.state.page.equals page = false ∧ s'.project = s.project ∧ s'.state.page = page ∧
      ∀ id, Fields.get? s'.state.triggers id =
        if id ∈ (s.project.elementsOn s.state.page).map (·.id) then none
        else Fields.get? s.state.triggers id := by
  cases hequals : s.state.page.equals page with
  | true =>
    rw [navigateTo, if_pos hequals] at h
    cases h
    exact .inl rfl
  | false =>
    obtain ⟨document, animations, rfl⟩ := navigateTo_frame hequals h
    refine .inr ⟨rfl, rfl, rfl, fun id => ?_⟩
    rw [← LiveState.get?_triggers_forget]
    rfl

/-! ## Stays on a page -/

/-- Sessions that a project can come to without a fault, with the sessions before each tick since
the shown page came to be shown. A tick or a request from outside may lead to another page. -/
inductive Stay (project : Project) : List Session → Session → Prop
  | start (document : Document) (dispatcher : Dispatcher) (samples : Nat → Float) (clock : Clock) :
    Stay project [] (new project document dispatcher samples clock)
  | idle {ticks s s'} (h : Stay project ticks s) (hidle : Idle s s') : Stay project ticks s'
  | tick {ticks s s'} (h : Stay project ticks s) (ht : s.tick = (none, s'))
    (hpage : s'.state.page = s.state.page) : Stay project (ticks ++ [s]) s'
  | leave {ticks s s'} (h : Stay project ticks s) (ht : s.tick = (none, s'))
    (hpage : s'.state.page ≠ s.state.page) : Stay project [] s'
  | navigate {ticks s s' page} (h : Stay project ticks s) (hn : s.navigateTo page = (none, s'))
    (hpage : s'.state.page ≠ s.state.page) : Stay project [] s'

section Stays

variable {project : Project} {ticks : List Session}

/-- Showing the page that is shown already is idle. -/
lemma idle_of_navigateTo {page : Value} (h : s.navigateTo page = (none, s'))
    (hpage : s'.state.page = s.state.page) : Idle s s' := by
  rcases navigateTo_cases h with rfl | ⟨hequals, hproject, hpage', htriggers⟩
  · exact ⟨rfl, rfl, fun _ => rfl⟩
  · refine ⟨hproject, hpage, fun id => ?_⟩
    rw [← hpage', hpage] at hequals
    rw [htriggers, Project.elementsOn_eq_nil hequals, List.map_nil, if_neg List.not_mem_nil]

/-- **All that a tick can do to triggers**: a pass hands them on, and then another page may come to
be shown. -/
lemma tick_cases (h : s.tick = (none, s')) :
    ∃ passed after, PassHands (s.project.elementsOn s.state.page) s.setTime passed ∧
      Idle passed after ∧ (s' = after ∨ ∃ page, after.navigateTo page = (none, s')) := by
  obtain ⟨passed, n, dispatcher, hall, -, hfollow⟩ := tick_ok h
  rw [shown_eq] at hall
  rw [followRequest] at hfollow
  split_ifs at hfollow with hpending
  · have hidle : Idle passed { passed with dispatcher := dispatcher, frame := passed.frame + 1 } :=
      ⟨rfl, rfl, fun _ => rfl⟩
    exact ⟨passed, _, visitAll_hands hall, hidle, .inl (congrArg Prod.snd hfollow).symm⟩
  · have hidle : Idle passed
        { passed with
          dispatcher := dispatcher, frame := passed.frame + 1, pendingPage := .null } :=
      ⟨rfl, rfl, fun _ => rfl⟩
    exact ⟨passed, _, visitAll_hands hall, hidle, .inr ⟨_, hfollow⟩⟩

/-- What holds during a stay: only elements of the shown page have triggers, all ticks passed over
that page, and their evaluations hand on what is remembered of triggers, which was nothing when the
page came to be shown. -/
structure Settled (project : Project) (ticks : List Session) (s : Session) : Prop where
  ofProject : s.project = project
  absent : ∀ id, id ∉ (project.elementsOn s.state.page).map (·.id) →
    Fields.get? s.state.triggers id = none
  onPage : ∀ t ∈ ticks, t.project = project ∧ t.state.page = s.state.page ∧ t.tick.1 = none
  handed : ∀ id, Evaluation.Handed [] (ticks.flatMap (turnsOf id)) (s.state.triggersOf id)

/-- A stay begins with nothing remembered. -/
lemma settled_of_forgotten (hproject : s.project = project)
    (h : ∀ id, Fields.get? s.state.triggers id = none) : Settled project [] s where
  ofProject := hproject
  absent := fun id _ => h id
  onPage := nofun
  handed := fun id => by
    rw [LiveState.triggersOf, h]
    exact .nil

lemma Settled.idle (h : Settled project ticks s) (hidle : Idle s s') :
    Settled project ticks s' where
  ofProject := hidle.project.trans h.ofProject
  absent := fun id hid => (hidle.triggers id).trans (h.absent id (hidle.page ▸ hid))
  onPage := fun t ht => by
    obtain ⟨hproject, hpage, hreturns⟩ := h.onPage t ht
    exact ⟨hproject, hpage.trans hidle.page.symm, hreturns⟩
  handed := fun id => by
    rw [hidle.triggersOf]
    exact h.handed id

/-- On the way to another page everything is forgotten. -/
lemma Settled.navigate (h : Settled project ticks s) {page : Value}
    (hn : s.navigateTo page = (none, s')) (hpage : s'.state.page ≠ s.state.page) :
    Settled project [] s' := by
  rcases navigateTo_cases hn with rfl | ⟨-, hproject, -, htriggers⟩
  · exact absurd rfl hpage
  · refine settled_of_forgotten (hproject.trans h.ofProject) fun id => ?_
    rw [htriggers]
    split_ifs with hid
    · rfl
    · exact h.absent id (h.ofProject ▸ hid)

/-- The evaluations of a tick come after those of earlier ticks. -/
lemma Settled.pass {passed after : Session} (h : Settled project ticks s)
    (hreturns : s.tick.1 = none)
    (hpass : PassHands (s.project.elementsOn s.state.page) s.setTime passed)
    (hidle : Idle passed after) : Settled project (ticks ++ [s]) after := by
  have htime := idle_setTime s
  have hpage : passed.state.page = s.state.page := hpass.page.trans htime.page
  have hproject : passed.project = project :=
    (hpass.project.trans htime.project).trans h.ofProject
  suffices hpassed : Settled project (ticks ++ [s]) passed from hpassed.idle hidle
  refine ⟨hproject, fun id hid => ?_, fun t ht => ?_, fun id => ?_⟩
  · rw [hpage] at hid
    rw [hpass.triggers id (h.ofProject ▸ hid), htime.triggers]
    exact h.absent id hid
  · rw [hpage]
    rcases List.mem_append.1 ht with ht | ht
    · exact h.onPage t ht
    · obtain rfl := List.mem_singleton.1 ht
      exact ⟨h.ofProject, rfl, hreturns⟩
  · have hturns := hpass.handed id
    rw [← shown_eq, htime.triggersOf] at hturns
    rw [List.flatMap_append, List.flatMap_singleton]
    exact (h.handed id).append hturns

/-- **What is remembered of triggers during a stay is what the ticks of the stay handed on.** -/
theorem Stay.settled (h : Stay project ticks s) : Settled project ticks s := by
  induction h with
  | start document dispatcher samples clock => exact settled_of_forgotten rfl fun _ => rfl
  | idle _ hidle ih => exact ih.idle hidle
  | @tick ticks s s' _ ht hpage ih =>
    obtain ⟨passed, after, hpass, hidle, rfl | ⟨page, hn⟩⟩ := tick_cases ht
    · exact ih.pass (congrArg Prod.fst ht) hpass hidle
    · have hsame : s.state.page = after.state.page :=
        ((idle_setTime s).page.symm.trans hpass.page.symm).trans hidle.page.symm
      exact (ih.pass (congrArg Prod.fst ht) hpass hidle).idle
        (idle_of_navigateTo hn (hpage.trans hsame))
  | @leave ticks s s' _ ht hpage ih =>
    obtain ⟨passed, after, hpass, hidle, hend⟩ := tick_cases ht
    have hsame : after.state.page = s.state.page :=
      hidle.page.trans (hpass.page.trans (idle_setTime s).page)
    rcases hend with rfl | ⟨page, hn⟩
    · exact absurd hsame hpage
    · exact (ih.pass (congrArg Prod.fst ht) hpass hidle).navigate hn (hsame ▸ hpage)
  | navigate _ hn hpage ih => exact ih.navigate hn hpage

/-- A tick that succeeds continues a stay or begins another one. -/
lemma Stay.next (h : Stay project ticks s) (ht : s.tick = (none, s')) :
    ∃ ticks', Stay project ticks' s' := by
  by_cases hpage : s'.state.page = s.state.page
  · exact ⟨_, h.tick ht hpage⟩
  · exact ⟨_, h.leave ht hpage⟩

/-- A run that succeeds continues a stay or leads to another one. -/
lemma Stay.runFrames {interval : Float} {stopAt : Option Int} {limit count n : Nat}
    (h : Stay project ticks s)
    (hr : Session.runFrames interval stopAt limit count s = (.ok n, s')) :
    ∃ ticks', Stay project ticks' s' := by
  induction limit generalizing ticks count s with
  | zero =>
    cases hr
    exact ⟨ticks, h⟩
  | succ limit ih =>
    rw [Session.runFrames] at hr
    split_ifs at hr
    · cases hr
      exact ⟨ticks, h⟩
    have hread : Stay project ticks s.readClock.2 := h.idle ⟨rfl, rfl, fun _ => rfl⟩
    dsimp only at hr
    rcases hticked : s.readClock.2.tick with ⟨_ | fault, s₁⟩
    swap
    · rw [hticked] at hr
      cases hr
    rw [hticked] at hr
    obtain ⟨ticks₁, h₁⟩ := hread.next hticked
    refine ih (h₁.idle ?_) hr
    split_ifs <;> exact ⟨rfl, rfl, fun _ => rfl⟩

/-- A whole run that succeeds continues a stay or leads to another one. -/
lemma Stay.run {frames : Option Int} {fps : Number} {stopAt : Option Int} {n : Nat}
    (h : Stay project ticks s) (hr : s.run frames fps stopAt = (.ok n, s')) :
    ∃ ticks', Stay project ticks' s' := by
  have hstarted : Stay project ticks { s with running := true } :=
    h.idle ⟨rfl, rfl, fun _ => rfl⟩
  rw [Session.run] at hr
  rcases hinterval : Number.dividedBy (.float 1) fps with fault | interval
  · rw [hinterval] at hr
    cases hr
  rw [hinterval] at hr
  rcases hframes : Session.runFrames interval stopAt (s.frameLimit frames stopAt) 0
    { s with running := true } with ⟨result, s₁⟩
  simp only [hframes] at hr
  cases hr
  obtain ⟨ticks₁, h₁⟩ := hstarted.runFrames hframes
  exact ⟨_, h₁.idle ⟨rfl, rfl, fun _ => rfl⟩⟩

/-- A change of the state that leaves the page and triggers alone is idle. -/
lemma idle_of_setState {changed : Except Fault LiveState}
    (hkeeps : ∀ state, changed = .ok state →
      state.page = s.state.page ∧ state.triggers = s.state.triggers) :
    Idle s (s.setState changed).2 := by
  rcases changed with fault | state
  · exact ⟨rfl, rfl, fun _ => rfl⟩
  · obtain ⟨hpage, htriggers⟩ := hkeeps state rfl
    exact ⟨rfl, hpage, fun id => congrArg (Fields.get? · id) htriggers⟩

/-- Hovering leaves the page and triggers alone. -/
lemma keeps_of_hover {id : Value} {isOver : Bool} {state state' : LiveState}
    (h : state.hover id isOver = .ok state') :
    state'.page = state.page ∧ state'.triggers = state.triggers := by
  obtain ⟨_, rfl⟩ := LiveState.hover_frame h
  exact ⟨rfl, rfl⟩

/-- Clicking leaves the page and triggers alone. -/
lemma keeps_of_click {id : Value} {state state' : LiveState} (h : state.click id = .ok state') :
    state'.page = state.page ∧ state'.triggers = state.triggers := by
  obtain ⟨_, rfl⟩ := LiveState.click_frame h
  exact ⟨rfl, rfl⟩

/-- **Every input that succeeds continues a stay or leads to another one**, whole runs included. -/
theorem Stay.receive (h : Stay project ticks s) {input : Input}
    (hr : s.receive input = (none, s')) : ∃ ticks', Stay project ticks' s' := by
  cases input with
  | mount =>
    cases hr
    exact ⟨_, h.idle (idle_mount s)⟩
  | tick => exact h.next hr
  | run frames fps stopAt =>
    rw [Session.receive] at hr
    rcases hrun : s.run frames fps stopAt with ⟨fault | n, s₁⟩
    · rw [hrun] at hr
      cases hr
    · rw [hrun] at hr
      cases hr
      exact h.run hrun
  | stop =>
    cases hr
    exact ⟨_, h.idle ⟨rfl, rfl, fun _ => rfl⟩⟩
  | close =>
    obtain rfl : s.close.2 = s' := congrArg Prod.snd hr
    refine ⟨_, h.idle ?_⟩
    rw [close]
    split_ifs <;> exact ⟨rfl, rfl, fun _ => rfl⟩
  | pointerEnter id =>
    obtain rfl : _ = s' := congrArg Prod.snd hr
    exact ⟨_, h.idle (idle_of_setState fun _ => keeps_of_hover)⟩
  | pointerLeave id =>
    obtain rfl : _ = s' := congrArg Prod.snd hr
    exact ⟨_, h.idle (idle_of_setState fun _ => keeps_of_hover)⟩
  | click id =>
    obtain rfl : _ = s' := congrArg Prod.snd hr
    exact ⟨_, h.idle (idle_of_setState fun _ => keeps_of_click)⟩
  | requestNavigation page =>
    cases hr
    exact ⟨_, h.idle ⟨rfl, rfl, fun _ => rfl⟩⟩
  | navigateTo page =>
    by_cases hpage : s'.state.page = s.state.page
    · exact ⟨_, h.idle (idle_of_navigateTo hr hpage)⟩
    · exact ⟨_, h.navigate hr hpage⟩
  | advance seconds =>
    cases hr
    exact ⟨_, h.idle ⟨rfl, rfl, fun _ => rfl⟩⟩

end Stays

/-! ## Actions of one element -/

section Actions

variable {project : Project} {element : Element} {graphs : List Graph}

/-- **An element has one evaluation for each of its graphs in a tick**, in order, if it is on the
screen and no other element of the page has its id. -/
theorem settings_turnsOf (hreturns : s.tick.1 = none)
    (halone : (s.project.elementsOn s.state.page).filter (·.id == element.id) = [element])
    (hmounted : s.Mounts element) (hgraphs : element.graphs s.project = .ok graphs) :
    ∃ setting : Composition.Setting Outlet, setting.element = element ∧
      (s.turnsOf element.id).map (·.setting) = graphs.map setting.forGraph := by
  obtain ⟨before, after, hon, hbefore, -, hafter⟩ := List.filter_eq_cons_iff.1 halone
  have hbefore : element.id ∉ before.map (·.id) := by simpa using hbefore
  have hafter : element.id ∉ after.map (·.id) := by simpa [List.filter_eq_nil_iff] using hafter
  obtain ⟨passed, n, dispatcher, hall, -⟩ := tick_ok (Prod.ext hreturns rfl)
  rw [shown_eq, hon] at hall
  obtain ⟨middle, hearlier, hrest⟩ := visitAll_append hall
  have hturns : s.turnsOf element.id = middle.turn element := by
    rw [turnsOf, shown_eq, hon, turns_append _ _ hearlier, turns_eq_nil hbefore, turns, if_pos rfl,
      turns_eq_nil hafter, List.append_nil, List.nil_append]
  have hhands := visitAll_hands hearlier
  have hproject : middle.project = s.project := hhands.project.trans (idle_setTime s).project
  obtain ⟨live, hlive, hmounted⟩ := hmounted
  have hlive : middle.document.element? element.id = some live := by
    rw [hhands.document _ hbefore, (setTime_keeps s).2, hlive]
  obtain ⟨s₁, hvisit, -⟩ := visitAll_cons hrest
  rcases visit_ok hvisit with ⟨hnot, -⟩ | ⟨_, c, p, -, -, hcompose, -⟩
  · exact absurd ⟨live, hlive, hmounted⟩ hnot
  obtain ⟨graphs', hgraphs', hsettings, -⟩ := Composition.handed_of_compose rfl hcompose
  have hsame : element.graphs middle.project = .ok graphs := by rw [hproject, hgraphs]
  cases hgraphs'.symm.trans hsame
  exact ⟨middle.setting element, rfl, by rw [hturns, turn_eq hlive hmounted hsame, hsettings]⟩

/-- The value on the trigger of a node in the next tick, in the evaluation at the given place among
those of its element. -/
def trigger (s : Session) (id : String) (place : Nat) (node : String) : Option Value :=
  (s.turnsOf id)[place]?.bind fun call =>
    (Evaluation.seen "in-trigger" (Evaluation.own node call.final.exchanges)).head?

/-- In a tick, the evaluation of a graph stands among those of its element where the graph stands
among the element's graphs. -/
lemma exists_turn {below above : List Graph} {graph : Graph} (hreturns : s.tick.1 = none)
    (halone : (s.project.elementsOn s.state.page).filter (·.id == element.id) = [element])
    (hmounted : s.Mounts element)
    (hgraphs : element.graphs s.project = .ok (below ++ graph :: above)) :
    ∃ earlier call later, s.turnsOf element.id = earlier ++ call :: later ∧
      earlier.length = below.length ∧ call.setting.graph = graph ∧
      call.setting.overrides = element.overrides ∧
      ∀ other ∈ earlier ++ later, other.setting.graph ∈ below ++ above := by
  obtain ⟨setting, rfl, hsettings⟩ := settings_turnsOf hreturns halone hmounted hgraphs
  rw [List.map_append, List.map_cons] at hsettings
  obtain ⟨earlier, rest, hturns, hearlier, hrest⟩ := List.map_eq_append_iff.1 hsettings
  obtain ⟨call, later, rfl, hcall, hlater⟩ := List.map_eq_cons_iff.1 hrest
  have hmem {calls : List (Evaluation.Call Outlet)} {graphs : List Graph}
      (h : calls.map (·.setting) = graphs.map setting.forGraph) :
      ∀ other ∈ calls, other.setting.graph ∈ graphs := by
    intro other hother
    obtain ⟨graph', hgraph', heq⟩ := List.mem_map.1 (h ▸ List.mem_map_of_mem hother)
    rw [← heq]
    exact hgraph'
  refine ⟨earlier, call, later, hturns, ?_, ?_, ?_, fun other hother => ?_⟩
  · simpa using congrArg List.length hearlier
  · rw [hcall]
    rfl
  · rw [hcall]
    rfl
  · exact List.mem_append.2
      ((List.mem_append.1 hother).imp (hmem hearlier other) (hmem hlater other))

/-- **When an action of an element fires.** Let an element have been on the screen in every tick
since its page came to be shown, with no other element of its id on the page. In the next tick, an
action of one of its graphs that is not overridden looks at its trigger once, and there is an event
of it, and then only one, exactly if its trigger is true, its payload counts as true, and the value
that was looked at last under its id, in any graph of the element since the page came to be shown,
is not true. If no other graph of the element has an action of that id, then that value is the one
on its own trigger in the tick before, and there is none in the first tick. -/
theorem action_fires_on_remembered_edges {ticks : List Session} {below above : List Graph}
    {graph : Graph} {node : Node} (h : Stay project ticks s) (hreturns : s.tick.1 = none)
    (halone : (project.elementsOn s.state.page).filter (·.id == element.id) = [element])
    (hmounted : ∀ t ∈ ticks ++ [s], t.Mounts element)
    (hgraphs : element.graphs project = .ok (below ++ graph :: above))
    (hnode : graph.node? node.id = some node) (hact : node.isAction = true)
    (ho : Fields.get? element.overrides node.id = none) :
    ∃ earlier call later v, s.turnsOf element.id = earlier ++ call :: later ∧
      earlier.length = below.length ∧ call.setting.graph = graph ∧
      Evaluation.Delivered call.setting call.outlet call.final ∧
      Evaluation.ActsOnRise graph node
        (Evaluation.recorded node.id none (ticks.flatMap (turnsOf element.id) ++ earlier)) (some v)
        (Evaluation.own node.id call.final.exchanges) v ∧
      ((∀ other ∈ below ++ above, ∀ node', other.node? node.id = some node' →
          node'.isAction = false) →
        (Evaluation.events graph (Evaluation.own node.id call.final.exchanges) ≠ [] ↔
          v = .bool true ∧
          (ticks.getLast?.bind fun t => t.trigger element.id below.length node.id) ≠
            some (.bool true) ∧
          Evaluation.payload node (Evaluation.own node.id call.final.exchanges) >>=
            Coercion.truthy = .ok true)) := by
  have hsettled := h.settled
  have hturn (t : Session) (hproject : t.project = project) (hpage : t.state.page = s.state.page)
      (ht : t.tick.1 = none) (hmounts : t.Mounts element) :=
    exists_turn (s := t) ht (by rw [hproject, hpage, halone]) hmounts (hproject ▸ hgraphs)
  obtain ⟨earlier, call, later, hturns, hlength, hgraph, hoverrides, hothers⟩ :=
    hturn s hsettled.ofProject rfl hreturns (hmounted s (by simp))
  obtain ⟨passed, after, hpass, hidle, -⟩ := tick_cases (Prod.ext hreturns rfl)
  have hhanded := (hsettled.pass hreturns hpass hidle).handed element.id
  rw [List.flatMap_append, List.flatMap_singleton, hturns, ← List.append_assoc] at hhanded
  obtain ⟨hbefore, hlawful, hdelivered⟩ := hhanded.law
  rw [hgraph] at hlawful
  obtain ⟨v, hv⟩ := (hlawful node hnode hact).2 (hoverrides ▸ ho)
  have hremembers := hv.remembers
  rw [hbefore, hremembers] at hv
  refine ⟨earlier, call, later, v, hturns, hlength, hgraph, hdelivered, hv, fun hid => ?_⟩
  suffices hprevious : Evaluation.recorded node.id none
      (ticks.flatMap (turnsOf element.id) ++ earlier) =
        ticks.getLast?.bind fun t => t.trigger element.id below.length node.id by
    rw [← hprevious]
    exact hv.fires
  obtain ⟨_, hpast, -⟩ := hhanded.split
  obtain ⟨_, hticks, hearlier⟩ := hpast.split
  rw [Evaluation.recorded_append, hearlier.recorded_of_not_action fun other hother =>
    hid _ (hothers other (List.mem_append_left _ hother))]
  obtain rfl | ⟨ticks, t, rfl⟩ := List.eq_nil_or_concat' ticks
  · rfl
  -- the last evaluation of the graph is that of the tick before
  obtain ⟨hproject, hpage, ht⟩ := hsettled.onPage t (by simp)
  obtain ⟨earlier', call', later', hturns', hlength', hgraph', hoverrides', hothers'⟩ :=
    hturn t hproject hpage ht (hmounted t (by simp))
  rw [List.flatMap_append, List.flatMap_singleton] at hticks ⊢
  obtain ⟨_, -, hlast⟩ := hticks.split
  rw [hturns'] at hlast
  have hcall' : (t.turnsOf element.id)[below.length]? = some call' := by
    rw [hturns', ← hlength', List.getElem?_append_right (Nat.le_refl _), Nat.sub_self,
      List.getElem?_cons_zero]
  rw [Evaluation.recorded_append, hturns', hlast.recorded_own (hgraph' ▸ hnode) hact
    (hoverrides' ▸ ho) fun other hother => hid _ (hothers' other hother)]
  simp [trigger, hcall']

end Actions

/-! ## A chime -/

/-- A badge with the given scripts attached. -/
def chimeElement (scripts : List String) : Element where
  id := "chime"
  kind := "BADGE"
  pageId := some "home"
  parentId := none
  x := .int 0
  y := .int 0
  width := .int 1
  height := .int 1
  style := []
  content := none
  componentId := none
  ownGraph := none
  isDetached := false
  scripts := scripts
  overrides := []
  src := none
  alt := none
  videoOptions := []

/-- A script with one alert of the given id that hangs on a switch. -/
def chimeScript (name alert : String) (isOn : Bool) : Graph :=
  ⟨[⟨"switch", "TOGGLE", [("value", .bool isOn)]⟩, ⟨alert, "ALERT", [("value", .str "ding")]⟩],
    [⟨"switch", alert, "in-trigger"⟩], .str name, .null⟩

/-- The badge with a script that rings, one that does not ring under the same id, and one that does
not ring under another id. -/
def chime (scripts : List String) : Project where
  elements := [chimeElement scripts]
  pages := [⟨"home", .null⟩]
  width := .int 1
  height := .int 1
  components := []
  scripts := [chimeScript "on" "ring" true, chimeScript "off" "ring" false,
    chimeScript "still" "gong" false]

/-- The badge as it is at first. -/
def chimeDocument : Document :=
  ⟨[("chime", ⟨"", [], true, 0, 0⟩)], [.str "home"]⟩

/-- The session of the badge at the start, with somebody who keeps events. -/
def chimeStart (scripts : List String) : Session :=
  new (chime scripts) chimeDocument (.new [.recorder] false) (fun _ => 0.5) ⟨0, 1, []⟩

/-- The badge has a stay with one tick. -/
lemma stay_chime (scripts : List String) (h : (chimeStart scripts).tick.1 = none)
    (hpage : (chimeStart scripts).tick.2.state.page = .str "home") :
    Stay (chime scripts) [chimeStart scripts] (chimeStart scripts).tick.2 :=
  Stay.tick (.start chimeDocument _ _ _) (Prod.ext h rfl) hpage

/-- Next to a script that does not ring under another id, the badge rings once: in the second tick
its trigger is still true. -/
theorem chime_rings_once :
    let first := chimeStart ["on", "still"]
    let second := first.tick.2
    Stay (chime ["on", "still"]) [first] second ∧ second.tick.1 = none ∧
      first.trigger "chime" 0 "ring" = some (.bool true) ∧
      ∃ call later, second.turnsOf "chime" = call :: later ∧
        Evaluation.events (chimeScript "on" "ring" true)
          (Evaluation.own "ring" call.final.exchanges) = [] := by
  intro first second
  have hstay : Stay (chime ["on", "still"]) [first] second :=
    stay_chime _ (by decide +kernel) (by decide +kernel)
  have hreturns : second.tick.1 = none := by decide +kernel
  have htrigger : first.trigger "chime" 0 "ring" = some (.bool true) := by decide +kernel
  have halone : ((chime ["on", "still"]).elementsOn second.state.page).filter
      (·.id == (chimeElement ["on", "still"]).id) = [chimeElement ["on", "still"]] := by
    decide +kernel
  have hfirst : first.Mounts (chimeElement ["on", "still"]) :=
    ⟨⟨"", [], true, 0, 0⟩, by decide +kernel, rfl⟩
  have hsecond : second.Mounts (chimeElement ["on", "still"]) :=
    ⟨⟨"", [], true, 0, 0⟩, by decide +kernel, rfl⟩
  have hmounted : ∀ t ∈ [first] ++ [second], t.Mounts (chimeElement ["on", "still"]) :=
    List.forall_mem_cons.2 ⟨hfirst, List.forall_mem_singleton.2 hsecond⟩
  have hgraphs : (chimeElement ["on", "still"]).graphs (chime ["on", "still"]) =
      .ok ([] ++ chimeScript "on" "ring" true :: [chimeScript "still" "gong" false]) := by
    decide +kernel
  let ring : Node := ⟨"ring", "ALERT", [("value", .str "ding")]⟩
  have hnode : (chimeScript "on" "ring" true).node? ring.id = some ring := by decide
  obtain ⟨earlier, call, later, v, hturns, hlength, -, -, -, hfires⟩ :=
    action_fires_on_remembered_edges hstay hreturns halone hmounted hgraphs hnode (by decide) rfl
  obtain rfl : earlier = [] := List.length_eq_zero_iff.1 hlength
  refine ⟨hstay, hreturns, htrigger, call, later, hturns, ?_⟩
  by_contra hrings
  have hsilent : ∀ other ∈ ([] ++ [chimeScript "still" "gong" false] : List Graph), ∀ node',
      other.node? "ring" = some node' → node'.isAction = false := by decide
  exact ((hfires hsilent).1 hrings).2.1 htrigger

/-- **A trigger that stays true rings again** if another script of the element has an action of the
same id. -/
theorem clashing_chimes_ring_again :
    let first := chimeStart ["on", "off"]
    let second := first.tick.2
    Stay (chime ["on", "off"]) [first] second ∧ second.tick.1 = none ∧
      first.trigger "chime" 0 "ring" = some (.bool true) ∧
      second.trigger "chime" 0 "ring" = some (.bool true) ∧
      (second.turnsOf "chime").map (fun call => (Evaluation.events call.setting.graph
        (Evaluation.own "ring" call.final.exchanges)).length) = [1, 0] ∧
      second.tick.2.dispatcher.journal.length = 2 := by
  intro first second
  refine ⟨stay_chime _ (by decide +kernel) (by decide +kernel), ?_, ?_, ?_, ?_, ?_⟩
  all_goals decide +kernel

end Session

end DesignGraph
