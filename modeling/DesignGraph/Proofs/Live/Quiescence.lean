import DesignGraph.Proofs.Evaluation.Repeat
import DesignGraph.Proofs.Live.EventOrder
/-!
# A tick that changes nothing

A tick leaves every element of the shown page at rest: its text and style are those of its
composition, its animation is the tracked one, and its triggers are remembered as they were looked
at. At the same time of the clock it is composed again to the same appearance, so that there is
nothing left to write, to start or to fire. Only the number of ticks grows.

Two graphs of an element that look at a trigger under the same id, and random nodes, are what can
keep a session from coming to rest.

## Main definitions

* `DesignGraph.Project.IsQuiet` — a design whose sessions come to rest.
* `DesignGraph.LiveElement.InLine` — nothing is left to bring in line.
* `DesignGraph.Session.AtRest` — an element that a visit leaves alone.
* `DesignGraph.Session.Resting` — a session that a tick at the same time leaves alone.

## Main results

* `DesignGraph.Evaluation.Handed.findsLooks` — evaluations leave triggers as they looked at them.
* `DesignGraph.Composition.compose_repeats` — a composition that is repeated leaves no trace.
* `DesignGraph.Session.atRest_of_visit`, `DesignGraph.Session.AtRest.visit` — a visit leaves its
  element at rest, and then another one changes nothing.
* `DesignGraph.Session.resting_of_tick`, `DesignGraph.Session.Resting.tick` — a tick comes to rest,
  and then another one changes nothing.
* `DesignGraph.Session.second_tick_changes_nothing` — a second tick at the same time changes nothing.
-/

set_option relaxedAutoImplicit false
set_option autoImplicit false

namespace DesignGraph

/-- The ids of the actions of a graph. -/
def Graph.actionIds (graph : Graph) : List String :=
  graph.actions.map (·.id)

/-- An addressed action is among the actions. -/
lemma Graph.mem_actionIds {graph : Graph} {id : String} {node : Node}
    (hn : graph.node? id = some node) (hact : node.isAction = true) : id ∈ graph.actionIds := by
  rw [← Graph.id_of_node? hn]
  exact List.mem_map_of_mem (List.mem_filter.2 ⟨List.mem_of_find?_eq_some hn, hact⟩)

/-- A design whose sessions come to rest: elements have different ids, and among the graphs of an
element there is no random node and no id under which two of them have an action. -/
structure Project.IsQuiet (project : Project) : Prop where
  distinct : (project.elements.map (·.id)).Nodup
  steady : ∀ element ∈ project.elements, ∀ graphs, element.graphs project = .ok graphs →
    ∀ graph ∈ graphs, graph.IsSteady
  apart : ∀ element ∈ project.elements, ∀ graphs, element.graphs project = .ok graphs →
    (graphs.map Graph.actionIds).Pairwise List.Disjoint

/-! ## Looks that remain -/

namespace Evaluation

variable {σ : Type}

/-- **Evaluations leave triggers as they looked at them**, if no two of their graphs have an action
of the same id. -/
theorem Handed.findsLooks {calls : List (Call σ)} {start final : Fields}
    (h : Handed start calls final)
    (hapart : (calls.map (·.setting.graph.actionIds)).Pairwise List.Disjoint) :
    ∀ call ∈ calls, FindsLooks final call.final.exchanges := by
  intro call hcall
  obtain ⟨earlier, later, rfl⟩ := List.append_of_mem hcall
  rintro ⟨id, request, answer⟩ hmem v rfl
  have hrun : run call.setting (.start call.before call.drawn call.outlet) =
      (.ok call.appearance, call.final) := by
    obtain ⟨_, -, hrest⟩ := h.split
    cases hrest with
    | cons hrun => exact hrun
  have hmade := run_madeByNode call.setting call.before call.drawn call.outlet
  rw [hrun] at hmade
  obtain ⟨⟨-, ho⟩, node, kind, hn, hkind, hask⟩ := hmade _ hmem
  obtain rfl : node.id = id := Graph.id_of_node? hn
  have hact : node.isAction = true := by
    rw [Node.isAction, hkind]
    exact hask
  -- no other evaluation looks at the trigger
  have hothers : ∀ other ∈ earlier ++ later, ∀ node', other.setting.graph.node? node.id =
      some node' → node'.isAction = false := by
    intro other hother node' hn'
    by_contra hact'
    have hid := Graph.mem_actionIds hn hact
    have hid' := Graph.mem_actionIds hn' (by simpa using hact')
    rw [List.map_append, List.map_cons, List.pairwise_append, List.pairwise_cons] at hapart
    obtain ⟨-, ⟨hlater, -⟩, hearlier⟩ := hapart
    rcases List.mem_append.1 hother with hother | hother
    · exact hearlier _ (List.mem_map_of_mem hother) _ List.mem_cons_self hid' hid
    · exact hlater _ (List.mem_map_of_mem hother) hid hid'
  obtain ⟨seen, hlaw⟩ := (lawful_of_run hrun hn hact).2 ho
  have hlook : v ∈ looks (own node.id call.final.exchanges) :=
    List.mem_filterMap.2 ⟨_, List.mem_filter.2 ⟨hmem, beq_self_eq_true _⟩, rfl⟩
  rw [hlaw.looks, List.mem_singleton] at hlook
  rw [h.recorded_eq, h.recorded_own hn hact ho hothers, hlaw.reads, hlook]
  rfl

end Evaluation

namespace Composition

variable {σ : Type} {setting : Setting σ} {p q : Progress σ}

/-- Graphs that are evaluated again lead to the same appearance and leave no trace, if triggers are
remembered as they were looked at. -/
lemma evaluateAll_repeats {graphs : List Graph} {below computed : Appearance} {triggers : Fields}
    (hremembers : setting.remembers = true)
    (h : evaluateAll setting graphs below p = (.ok computed, q))
    (hsteady : ∀ graph ∈ graphs, graph.IsSteady)
    (hlooks : ∀ call ∈ calls setting graphs p,
      Evaluation.FindsLooks triggers call.final.exchanges) (drawn : Nat) (outlet : σ) :
    evaluateAll setting graphs below ⟨triggers, drawn, outlet⟩ =
      (.ok computed, ⟨triggers, drawn, outlet⟩) := by
  induction graphs generalizing below p with
  | nil =>
    cases h
    rfl
  | cons graph rest ih =>
    obtain ⟨hfirst, hrest⟩ := List.forall_mem_cons.1 hsteady
    rw [evaluateAll] at h
    rw [calls] at hlooks
    rcases hrun : Evaluation.run (setting.forGraph graph) (setting.start p) with ⟨fault | a, q₁⟩
    · rw [hrun] at h
      cases h
    rw [hrun] at h hlooks
    obtain ⟨hlook, hlater⟩ := List.forall_mem_cons.1 hlooks
    obtain ⟨q', hagain, htrace⟩ := Evaluation.run_repeats hrun hfirst hlook drawn outlet
    have hstart : setting.start ⟨triggers, drawn, outlet⟩ = .start triggers drawn outlet := by
      rw [Setting.start, hremembers]
      rfl
    have hafter : Progress.after q' = ⟨triggers, drawn, outlet⟩ := by
      rw [Progress.after, htrace.triggers, htrace.drawn, htrace.outlet]
      rfl
    rw [evaluateAll, hstart, hagain]
    simp only [hafter]
    exact ih h hrest hlater

/-- **A composition that is repeated leaves no trace**: from the triggers that it left it leads to
itself, and it leaves them as they are, draws no sample and fires nothing. -/
theorem compose_repeats {c : Composition} {graphs : List Graph}
    (hremembers : setting.remembers = true) (h : compose setting p = (.ok c, q))
    (hgraphs : setting.element.graphs setting.project = .ok graphs)
    (hsteady : ∀ graph ∈ graphs, graph.IsSteady)
    (hapart : (graphs.map Graph.actionIds).Pairwise List.Disjoint) (drawn : Nat) (outlet : σ) :
    compose setting ⟨q.triggers, drawn, outlet⟩ = (.ok c, ⟨q.triggers, drawn, outlet⟩) := by
  obtain ⟨graphs', computed, hgraphs', hall, rfl⟩ := evaluateAll_of_compose h
  cases hgraphs'.symm.trans hgraphs
  obtain ⟨hsettings, hhanded⟩ := handed_calls hremembers hall
  have hcalls : (calls setting graphs p).map (·.setting.graph.actionIds) =
      graphs.map Graph.actionIds := by
    have hsame := congrArg (List.map (·.graph.actionIds)) hsettings
    simpa [List.map_map, Function.comp_def, Setting.forGraph] using hsame
  have hagain := evaluateAll_repeats hremembers hall hsteady
    (hhanded.findsLooks (hcalls ▸ hapart)) drawn outlet
  rw [compose, hgraphs]
  simp only [hagain]

end Composition

/-! ## In line -/

namespace LiveElement

/-- Nothing is left to bring in line: the computed content and the followed style entries show, and
a computed animation is the tracked one. -/
structure InLine (element : Element) (c : Composition) (tracked : Option Value)
    (live : LiveElement) : Prop where
  text : c.computed.content.isSome → element.kind?.any ElementKind.showsText →
    live.text = c.content
  style : ∀ key ∈ followedKeys, ∀ v, Fields.get? c.computed.style key = some v →
    ∃ shown, shownValue key v = .ok shown ∧ Fields.get? live.style key = some shown
  animation : ∀ v, Fields.get? c.computed.style "animation" = some v →
    ∃ t, v = .str t ∧ tracked = some (.str t)

variable {element : Element} {c : Composition} {tracked : Option Value} {live : LiveElement}

/-- Writing style entries that show already changes nothing. -/
lemma applyStyles_of_shown {computed : Fields} {keys : List String}
    (h : ∀ key ∈ keys, ∀ v, Fields.get? computed key = some v →
      ∃ shown, shownValue key v = .ok shown ∧ Fields.get? live.style key = some shown) :
    applyStyles computed keys live = (none, live) := by
  induction keys with
  | nil => rfl
  | cons key rest ih =>
    obtain ⟨hfirst, hrest⟩ := List.forall_mem_cons.1 h
    rw [applyStyles]
    rcases hv : Fields.get? computed key with _ | v
    · exact ih hrest
    · obtain ⟨shown, hshown, hget⟩ := hfirst v hv
      have hsame : live.setStyle key shown = live := by
        rw [setStyle, Fields.put_of_get? hget]
      simp only [hshown, hsame]
      exact ih hrest

/-- A text that is in line is not written. -/
lemma InLine.withText (h : InLine element c tracked live) : withText element c live = live := by
  unfold LiveElement.withText
  split_ifs with hshows
  · obtain ⟨hcontent, hkind⟩ := Bool.and_eq_true_iff.1 hshows
    rw [setText, if_pos (h.text hcontent hkind)]
  · rfl

end LiveElement

namespace Session

open LiveElement

variable {element : Element} {c : Composition} {live : LiveElement} {s s' : Session}

/-- Showing an element in the form in which it shows changes nothing. -/
lemma put_of_element? {id : String} (h : s.document.element? id = some live) :
    s.put id live = s := by
  rw [put, Document.put, Fields.put_of_get? h]

/-- What is brought in line is in line. -/
lemma inLine_of_apply (h : s.apply element live c = (none, s')) (htext : c.HasTextAnimation) :
    ∃ live', s'.document.element? element.id = some live' ∧ live'.mounted = live.mounted ∧
      InLine element c (Fields.get? s'.state.animations element.id) live' := by
  obtain ⟨second, hprepared, rfl⟩ := apply_ok h htext
  obtain ⟨hsame, hmounted, hkept⟩ :=
    animated_keeps (Fields.get? s.state.animations element.id) c second
  refine ⟨_, (Document.element?_put ..).trans (if_pos rfl), hmounted.trans hprepared.mounted,
    fun hcontent hkind => hsame.trans (hprepared.text hcontent hkind), fun key hkey v hv => ?_,
    fun v hv => ?_⟩
  · obtain ⟨shown, hshown, hget⟩ := hprepared.style key hkey v hv
    have hne : key ≠ "animation" := by
      rintro rfl
      exact absurd hkey (by decide)
    exact ⟨shown, hshown, (hkept key hne).trans hget⟩
  · obtain ⟨t, rfl⟩ := htext v hv
    exact ⟨t, rfl, get?_trackedAfter hv⟩

/-- **Bringing in line what is in line changes nothing.** -/
theorem apply_of_inLine
    (h : InLine element c (Fields.get? s.state.animations element.id) live)
    (hlive : s.document.element? element.id = some live) :
    s.apply element live c = (none, s) := by
  unfold apply
  dsimp only
  rw [← LiveElement.withText, h.withText, applyStyles_of_shown h.style]
  rcases hv : Fields.get? c.computed.style "animation" with _ | v
  · simp only [put_of_element? hlive]
  · obtain ⟨t, rfl, htracked⟩ := h.animation v hv
    simp only [applyAnimation_of_tracked live htracked, put_of_element? hlive]

/-! ## At rest -/

/-- An element that a visit leaves alone: it is not on the screen, or it is in line with a
composition that leads to itself and leaves no trace. -/
inductive AtRest (element : Element) (s : Session) : Prop
  | unmounted (h : ¬s.Mounts element)
  | composed {live : LiveElement} {c : Composition} {triggers : Fields}
    (hlive : s.document.element? element.id = some live) (hmounted : live.mounted = true)
    (htriggers : Fields.get? s.state.triggers element.id = some triggers)
    (hcompose : ∀ drawn outlet, Composition.compose (s.setting element) ⟨triggers, drawn, outlet⟩ =
      (.ok c, ⟨triggers, drawn, outlet⟩))
    (hline : c.dynamic = true →
      InLine element c (Fields.get? s.state.animations element.id) live)

/-- **A visit of an element at rest changes nothing.** -/
theorem AtRest.visit (h : AtRest element s) : s.visit element = (none, s) := by
  cases h with
  | unmounted hnot =>
    rw [Session.visit]
    rcases hlive : s.document.element? element.id with _ | live
    · rfl
    · have hmounted : live.mounted = false := by
        by_contra hmounted
        exact hnot ⟨live, hlive, by simpa using hmounted⟩
      simp [hmounted]
  | @composed live c triggers hlive hmounted htriggers hcompose hline =>
    have hprogress : s.progress element = ⟨triggers, s.drawn, s.outlet⟩ := by
      rw [progress, LiveState.triggersOf, htriggers]
      rfl
    have habsorb : s.absorb element.id ⟨triggers, s.drawn, s.outlet⟩ = s := by
      rw [absorb, Fields.put_of_get? htriggers]
      rfl
    rw [Session.visit, hlive, hprogress, hcompose]
    simp only [hmounted, habsorb]
    cases hdynamic : c.dynamic with
    | true => exact apply_of_inLine (hline hdynamic) hlive
    | false => rfl

/-- An element stays at rest as long as nothing changes for it. -/
lemma AtRest.congr (h : AtRest element s) (hs : SameFor element.id s s') : AtRest element s' := by
  have hsetting : s'.setting element = s.setting element := by
    rw [setting, setting, hs.project, hs.context, hs.samples]
  cases h with
  | unmounted hnot =>
    refine .unmounted fun ⟨live, hlive, hmounted⟩ => hnot ⟨live, ?_, hmounted⟩
    rw [← hs.document, hlive]
  | @composed live c triggers hlive hmounted htriggers hcompose hline =>
    refine .composed (c := c) (hs.document.trans hlive) hmounted (hs.triggers.trans htriggers) ?_ ?_
    · rwa [hsetting]
    · rwa [hs.animations]

/-! ## Coming to rest -/

/-- **A visit leaves its element at rest.** -/
theorem atRest_of_visit (hquiet : s.project.IsQuiet) (hmem : element ∈ s.project.elements)
    (htext : ∀ c, s.composed element = some c → c.HasTextAnimation)
    (h : s.visit element = (none, s')) : AtRest element s' := by
  rcases visit_ok h with ⟨hnot, rfl⟩ | ⟨live, c, p, hlive, hmounted, hcompose, hend⟩
  · exact .unmounted hnot
  obtain ⟨graphs, -, hgraphs, -⟩ := Composition.evaluateAll_of_compose hcompose
  have hagain (drawn : Nat) (outlet : Outlet) :
      Composition.compose (s.setting element) ⟨p.triggers, drawn, outlet⟩ =
        (.ok c, ⟨p.triggers, drawn, outlet⟩) :=
    Composition.compose_repeats rfl hcompose hgraphs (hquiet.steady element hmem graphs hgraphs)
      (hquiet.apart element hmem graphs hgraphs) drawn outlet
  have htriggers : Fields.get? (s.absorb element.id p).state.triggers element.id =
      some p.triggers := by
    rw [absorb, Fields.get?_put, if_pos rfl]
  split_ifs at hend with hdynamic
  · have hc : s.composed element = some c := composed_eq hlive hmounted hcompose
    obtain ⟨live', hlive', hmounted', hline⟩ := inLine_of_apply hend (htext c hc)
    obtain ⟨_, animations, -, hframe⟩ := apply_frame element live c (s.absorb element.id p)
    obtain rfl : _ = s' := hframe.symm.trans (congrArg Prod.snd hend)
    exact .composed hlive' (hmounted'.trans hmounted) htriggers hagain fun _ => hline
  · cases hend
    exact .composed hlive hmounted htriggers hagain fun hdynamic' => absurd hdynamic' hdynamic

/-- **A pass leaves all its elements at rest.** -/
theorem atRest_of_visitAll {elements : List Element} (hquiet : s.project.IsQuiet)
    (hmem : ∀ element ∈ elements, element ∈ s.project.elements)
    (hids : (elements.map (·.id)).Nodup) (htext : HasTextAnimations elements s)
    (h : visitAll elements s = (none, s')) : ∀ element ∈ elements, AtRest element s' := by
  induction elements generalizing s with
  | nil => exact List.forall_mem_nil _
  | cons element rest ih =>
    obtain ⟨s₁, hvisit, hrest⟩ := visitAll_cons h
    obtain ⟨hfirst, hothers⟩ := List.forall_mem_cons.1 hmem
    obtain ⟨hnew, hrestIds⟩ := List.nodup_cons.1 hids
    obtain _ | ⟨htextFirst, htextRest⟩ := htext
    rw [hvisit] at htextRest
    have hproject : s₁.project = s.project := by
      obtain ⟨⟨_, _, _, _, _, _, rfl⟩, -⟩ := visit_frame hvisit
      rfl
    rw [← hproject] at hothers
    have hrestAtRest := ih (by rwa [hproject]) hothers hrestIds htextRest hrest
    have hatRest := (atRest_of_visit hquiet hfirst htextFirst hvisit).congr
      ((visitAll_frame hrest).2 element.id hnew)
    exact List.forall_mem_cons.2 ⟨hatRest, hrestAtRest⟩

/-- A pass over elements at rest changes nothing. -/
lemma visitAll_of_atRest {elements : List Element} (h : ∀ element ∈ elements, AtRest element s) :
    visitAll elements s = (none, s) := by
  induction elements with
  | nil => rfl
  | cons element rest ih =>
    obtain ⟨hfirst, hrest⟩ := List.forall_mem_cons.1 h
    rw [visitAll, hfirst.visit]
    exact ih hrest

/-! ## Ticks that change nothing -/

/-- Showing the page that is shown already leaves its elements alone. -/
lemma navigateTo_stays {page : Value} (h : s.navigateTo page = (none, s'))
    (hpage : s'.state.page = s.state.page) :
    (∃ document animations dispatcher, s' =
      { s with
        document := document, dispatcher := dispatcher
        state := { s.state with animations := animations } }) ∧
    ∀ element ∈ s.project.elementsOn s.state.page, SameFor element.id s s' := by
  cases hequals : s.state.page.equals page with
  | true =>
    rw [navigateTo, if_pos hequals] at h
    cases h
    exact ⟨⟨s.document, s.state.animations, s.dispatcher, rfl⟩, fun element _ => .refl _ s⟩
  | false =>
    obtain ⟨document, animations, hframe⟩ := navigateTo_frame hequals h
    obtain rfl : page = s.state.page := by
      rw [← hpage, hframe]
    -- the page differs from itself
    have hnone : s.project.elementsOn s.state.page = [] := Project.elementsOn_eq_nil hequals
    have hstate : s.leavePage.state = s.state := by
      rw [leavePage, hnone]
      rfl
    rw [hnone]
    rw [hstate] at hframe
    exact ⟨⟨document, animations, _, hframe⟩, List.forall_mem_nil _⟩

/-- So does a request for it at the end of a tick, after which no page is asked for. -/
lemma followRequest_stays (h : s.followRequest = (none, s')) (hpage : s'.state.page = s.state.page) :
    (∃ document animations dispatcher, s' =
      { s with
        document := document, pendingPage := .null, dispatcher := dispatcher
        state := { s.state with animations := animations } }) ∧
    ∀ element ∈ s.project.elementsOn s.state.page, SameFor element.id s s' := by
  rw [followRequest] at h
  split_ifs at h with hpending
  · cases h
    refine ⟨⟨s.document, s.state.animations, s.dispatcher, ?_⟩, fun element _ => .refl _ s⟩
    rw [← hpending]
  · obtain ⟨⟨document, animations, dispatcher, hframe⟩, hsame⟩ := navigateTo_stays h hpage
    refine ⟨⟨document, animations, dispatcher, hframe⟩, fun element helement => ?_⟩
    have hasked : SameFor element.id s { s with pendingPage := .null } :=
      ⟨rfl, rfl, rfl, rfl, rfl, rfl⟩
    exact hasked.trans (hsame element helement)

/-- Once a session has started, setting the same time again only reads the clock. -/
lemma setTime_of_same (hstart : s.start.isSome) (htime : s.setTime.state.time = s.state.time) :
    s.setTime = { s with clock := s.readClock.2.clock } := by
  have hset : s.setTime = { s with
      clock := s.readClock.2.clock
      state := { s.state with time := s.setTime.state.time } } := by
    rw [setTime, Option.isNone_eq_false_iff.2 hstart]
    rfl
  rw [hset, htime]

/-- A session that a tick at the same time leaves alone: it has started, no page is asked for, no
alert waits, and the elements of the shown page are at rest. -/
structure Resting (s : Session) : Prop where
  started : s.start.isSome
  unasked : s.pendingPage = .null
  silent : s.dispatcher.pending = []
  atRest : ∀ element ∈ s.project.elementsOn s.state.page, AtRest element s

/-- **A tick of a resting session at the same time changes nothing**: it reads the clock and is
counted. -/
theorem Resting.tick (h : s.Resting) (htime : s.setTime.state.time = s.state.time) :
    s.tick = (none, { s with clock := s.readClock.2.clock, frame := s.frame + 1 }) := by
  obtain ⟨read, hread⟩ : ∃ read, read = { s with clock := s.readClock.2.clock } := ⟨_, rfl⟩
  have hset : s.setTime = read := (setTime_of_same h.started htime).trans hread.symm
  have hsame (id : String) : SameFor id s read := by
    rw [hread]
    exact ⟨rfl, rfl, rfl, rfl, rfl, rfl⟩
  have hshown : read.project.elementsOn read.state.page = s.project.elementsOn s.state.page := by
    rw [hread]
  have hpass : visitAll (read.project.elementsOn read.state.page) read = (none, read) := by
    rw [hshown]
    exact visitAll_of_atRest fun element helement => (h.atRest element helement).congr (hsame _)
  have hflush : read.dispatcher.flush = (.ok 0, read.dispatcher) :=
    Dispatcher.flush_of_pending (by rw [hread, h.silent])
  have hunasked : read.pendingPage = .null := by rw [hread, h.unasked]
  rw [Session.tick, hset]
  simp only [hpass, flush, hflush, followRequest, hunasked, if_pos]
  rw [hread, ← h.unasked]

/-- **A tick of a quiet design comes to rest**, at the time of the tick, if it shows no other
page. -/
theorem resting_of_tick (hquiet : s.project.IsQuiet) (htext : HasTextAnimations s.shown s.setTime)
    (ht : s.tick = (none, s')) (hpage : s'.state.page = s.state.page) :
    s'.Resting ∧ s'.state.time = s.setTime.state.time := by
  obtain ⟨passed, n, dispatcher, hall, -, hfollow⟩ := tick_ok ht
  obtain ⟨_, _, _, _, hset⟩ := setTime_frame s
  obtain ⟨⟨_, _, _, _, _, _, hpassed⟩, -⟩ := visitAll_frame hall
  obtain ⟨counted, hcounted⟩ : ∃ counted, counted =
      { passed with dispatcher := dispatcher, frame := passed.frame + 1 } := ⟨_, rfl⟩
  rw [← hcounted] at hfollow
  have hproject : counted.project = s.project := by rw [hcounted, hpassed, hset]
  have hcountedPage : counted.state.page = s.state.page := by rw [hcounted, hpassed, hset]
  have hids : (s.shown.map (·.id)).Nodup := by
    rw [shown_eq]
    exact hquiet.distinct.sublist (List.filter_sublist.map _)
  have hatRest : ∀ element ∈ s.shown, AtRest element counted := by
    intro element helement
    have hpassedAtRest : AtRest element passed :=
      atRest_of_visitAll (by rwa [hset]) (fun _ => List.mem_of_mem_filter) hids htext hall element
        helement
    rw [hcounted]
    exact hpassedAtRest.congr ⟨rfl, rfl, rfl, rfl, rfl, rfl⟩
  obtain ⟨⟨_, _, _, hframe⟩, hsame⟩ :=
    followRequest_stays hfollow (hpage.trans hcountedPage.symm)
  refine ⟨⟨?_, ?_, pending_tick ht, fun element helement => ?_⟩, ?_⟩
  · rw [hframe, hcounted, hpassed, hset]
    rfl
  · rw [hframe]
  · have hproject' : s'.project = counted.project := by rw [hframe]
    rw [hpage, hproject', ← hcountedPage] at helement
    refine (hatRest element ?_).congr (hsame element helement)
    rwa [shown_eq, ← hproject, ← hcountedPage]
  · rw [hframe, hcounted, hpassed]

/-- **A second tick at the same time changes nothing.** In a quiet design, let a tick return that
shows no other page and computes only texts as animations. If nothing happens until the next tick,
and that one is at the same time, then all that it does is to read the clock and to be counted: it
writes no text and restarts no animation, no style, trigger, hover, click or tracked animation
changes, and there is no event. -/
theorem second_tick_changes_nothing (hquiet : s.project.IsQuiet)
    (htext : HasTextAnimations s.shown s.setTime) (ht : s.tick = (none, s'))
    (hpage : s'.state.page = s.state.page)
    (htime : s'.setTime.state.time = s.setTime.state.time) :
    s'.tick = (none, { s' with clock := s'.readClock.2.clock, frame := s'.frame + 1 }) := by
  obtain ⟨hresting, htime'⟩ := resting_of_tick hquiet htext ht hpage
  exact hresting.tick (htime.trans htime'.symm)

/-! ## A lamp that rings -/

/-- The lamp with another script, which rings. -/
def ringingLamp : Project :=
  { lamp with
    elements := [{ lampElement with scripts := ["on", "glow"] }]
    scripts := chimeScript "on" "ring" true :: lamp.scripts }

lemma ringingLamp_isQuiet : ringingLamp.IsQuiet := by
  have hgraphs (element : Element) (helement : element ∈ ringingLamp.elements) :
      element.graphs ringingLamp = .ok ringingLamp.scripts := by
    obtain rfl := List.mem_singleton.1 helement
    decide
  have hids : ringingLamp.scripts.map Graph.actionIds = [["ring"], []] := by decide
  refine ⟨by decide, fun element helement graphs h => ?_, fun element helement graphs h => ?_⟩ <;>
    cases (hgraphs element helement).symm.trans h
  · decide
  · rw [hids]
    exact List.pairwise_pair.2 (List.disjoint_nil_right _)

/-- The lamp's session with the pointer over it, by a clock that stands still. -/
def ringingLampOver : Session :=
  ((new ringingLamp lampDocument (.new [.recorder] false) (fun _ => 0.5) ⟨0, 0, []⟩).receive
    (.pointerEnter (.str "lamp"))).2

/-- The first tick writes a text, restarts an animation and rings; the second one, at the same time,
changes nothing. -/
theorem ringing_lamp_rests :
    let s := ringingLampOver
    let s' := s.tick.2
    s.tick.1 = none ∧ s'.dispatcher.journal.length = 1 ∧
      (s'.document.element? "lamp").map (fun live => (live.textWrites, live.reflows)) =
        some (1, 1) ∧
      s'.tick = (none, { s' with clock := s'.readClock.2.clock, frame := s'.frame + 1 }) := by
  intro s s'
  have hreturns : s.tick.1 = none := by decide +kernel
  let spinning : Composition := .ofComputed { lampElement with scripts := ["on", "glow"] }
    ⟨[("animation", .str "spin 1s ease-in-out 0s infinite both")], some "true"⟩ true
  have hshown : s.shown = [{ lampElement with scripts := ["on", "glow"] }] := by decide +kernel
  have hspinning : s.setTime.composed { lampElement with scripts := ["on", "glow"] } =
      some spinning := by decide +kernel
  have htext : HasTextAnimations s.shown s.setTime := by
    rw [hshown]
    exact hasTextAnimations_singleton hspinning fun v hv => ⟨_, (Option.some.inj hv).symm⟩
  have hquiet : s.project.IsQuiet := ringingLamp_isQuiet
  have hpage : s'.state.page = s.state.page := by decide +kernel
  have htime : s'.setTime.state.time = s.setTime.state.time := by decide +kernel
  refine ⟨hreturns, by decide +kernel, by decide +kernel, ?_⟩
  exact second_tick_changes_nothing hquiet htext (tick_of_returns hreturns) hpage htime

end Session

end DesignGraph
