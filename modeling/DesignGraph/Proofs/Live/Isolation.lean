import DesignGraph.Proofs.Live.Locality
import DesignGraph.Proofs.Live.Quiescence
/-!
# Elements do not get into each other's way

Take two sessions of a design at the same time and on the same page that agree on one element and
may differ in everything else: in how other elements are hovered, clicked, shown and remembered, in
the samples, and in who hears of events. As long as their ticks return and stay on the page, the
ticks do the same to the element and fire the same for it.

What is shared after all is the queue of alerts. An alert of the element that waits since an earlier
tick, which some other element has ended with a fault, is delivered in one session and not in the
other.

## Main definitions

* `DesignGraph.Session.AgreeOn` — two sessions agree on an element.
* `DesignGraph.Session.AtSameTime` — their next ticks are at the same time.
* `DesignGraph.Session.HearsOf` — what processors hear of an element.

## Main results

* `DesignGraph.Session.TickLaw.hearsOf` — what processors hear of an element in a tick.
* `DesignGraph.Session.tick_isolates_elements` — a tick does the same to an element on which
  sessions agree.
-/

set_option relaxedAutoImplicit false
set_option autoImplicit false

namespace DesignGraph

namespace Session

variable {project : Project} {processors processors' : List Processor} {element : Element}
  {id : String} {s s' t t' : Session}

/-- Two sessions agree on an element: on hover, click and triggers, on the animation that is tracked
of it, and on how it shows. -/
structure AgreeOn (id : String) (s s' : Session) : Prop where
  hovered : (s'.state.context id).hovered = (s.state.context id).hovered
  clicked : (s'.state.context id).clicked = (s.state.context id).clicked
  triggers : s'.state.triggersOf id = s.state.triggersOf id
  tracked : s'.tracked id = s.tracked id
  live : s'.document.element? id = s.document.element? id

/-- Two sessions are at the same time: both have started or neither, and their next ticks are at one
time. -/
structure AtSameTime (s s' : Session) : Prop where
  started : s'.start.isNone = s.start.isNone
  time : s'.setTime.state.time = s.setTime.state.time

/-- From `s` to `t`, every processor hears of an element by the given events and by its alerts that
waited: at once by the events that are no alerts, then by the alerts, those that waited first. -/
def HearsOf (processors : List Processor) (id : String) (events : List Event) (s t : Session) :
    Prop :=
  ∀ position < processors.length,
    (heard t.dispatcher.journal position).filter (Event.isOf id) =
      (heard s.dispatcher.journal position).filter (Event.isOf id) ++
        events.filter (fun event => !event.isAlert) ++
        (s.dispatcher.pending.filter (Event.isOf id) ++ events.filter Event.isAlert)

/-- **What processors hear of an element in a tick** is what it fires and its alerts that waited. -/
lemma TickLaw.hearsOf (h : TickLaw project processors s t) (id : String) :
    HearsOf processors id (s.fired.filter (Event.isOf id)) s t := by
  intro position hposition
  have hpage : (if s.changesPage then [Event.pageChanged s.state.page s.requestedPage]
      else []).filter (Event.isOf id) = [] := by
    split_ifs <;> rfl
  rw [h.heard position hposition]
  simp only [List.filter_append, hpage, List.append_nil, List.filter_filter, Bool.and_comm]

/-! ## Agreement in a tick -/

/-- Sessions that agree on an element compose it alike in their next ticks. -/
lemma AgreeOn.composesAlike_setTime (h : AgreeOn id s s') (hproject : s'.project = s.project)
    (htime : AtSameTime s s') : ComposesAlike id s.setTime s'.setTime := by
  have hnow := htime.time
  obtain ⟨_, _, _, _, hset⟩ := setTime_frame s
  obtain ⟨_, _, _, _, hset'⟩ := setTime_frame s'
  rw [hset, hset'] at hnow ⊢
  refine ⟨hproject, ?_, h.triggers, ?_⟩
  · have hhovered := h.hovered
    have hclicked := h.clicked
    simp only [LiveState.context] at hhovered hclicked hnow ⊢
    rw [hhovered, hclicked, hnow]
  · simp only [isMounted, h.live]

/-- Sessions that agree on how an element shows still do so when a tick has begun. -/
lemma AgreeOn.looksAlike_setTime (h : AgreeOn id s s') (hproject : s'.project = s.project)
    (htime : AtSameTime s s') : LooksAlike id s.setTime s'.setTime := by
  have hdocument (s : Session) : s.setTime.document = s.document := by
    obtain ⟨_, _, _, _, hset⟩ := setTime_frame s
    rw [hset]
  refine ⟨by rw [hdocument, hdocument, h.live], ?_⟩
  rw [tracked_setTime, tracked_setTime, tracked_mount, tracked_mount, htime.started, hproject,
    h.live, h.tracked]

/-- Sessions agree on an element that is composed and looks alike. -/
lemma agreeOn_of_alike (h : ComposesAlike id s s') (hlooks : LooksAlike id s s') :
    AgreeOn id s s' :=
  ⟨congrArg Context.hovered h.context, congrArg Context.clicked h.context, h.triggers,
    hlooks.tracked, hlooks.live⟩

/-- **The turn of an element in a tick** that stays on the page: from its beginning until then the
tick leaves the element alone, and so it does afterwards. What it fires that names the element is
fired then. -/
lemma tick_turn (hids : (s.project.elements.map (·.id)).Nodup)
    (helement : element ∈ s.project.elementsOn s.state.page) (hs : s.dispatcher.strict = false)
    (ht : s.tick = (none, t)) (hpage : t.state.page = s.state.page) :
    ∃ m n, m.visit element = (none, n) ∧ SameFor element.id s.setTime m ∧
      SameFor element.id n t ∧ m.dispatcher.strict = false ∧
      s.fired.filter (Event.isOf element.id) = m.posts element := by
  obtain ⟨passed, count, dispatcher, hall, -, hfollow⟩ := tick_ok ht
  rw [shown_eq] at hall
  obtain ⟨earlier, later, hsplit⟩ := List.append_of_mem helement
  rw [hsplit] at hall
  have hdistinct : ((earlier ++ element :: later).map (·.id)).Nodup := by
    rw [← hsplit]
    exact hids.sublist (List.filter_sublist.map _)
  obtain ⟨m, n, hearlier, hvisit, -, hbefore, hafter⟩ := visitAll_turn hdistinct hall
  have hlenient : m.dispatcher.strict = false := by
    have hset : s.setTime.dispatcher.strict = false := by rw [(setTime_outlet s).1, hs]
    exact (visitAll_takes hset hearlier).lenient hset
  refine ⟨m, n, hvisit, hbefore, hafter.trans ?_, hlenient, ?_⟩
  · obtain ⟨⟨_, _, _, _, _, _, hpassed⟩, -⟩ := visitAll_frame hall
    obtain ⟨_, _, _, _, hset⟩ := setTime_frame s
    have hcounted : SameFor element.id passed
        { passed with dispatcher := dispatcher, frame := passed.frame + 1 } :=
      ⟨rfl, rfl, rfl, rfl, rfl, rfl⟩
    have hsamePage : passed.state.page = s.state.page := by rw [hpassed, hset]
    have hsameProject : passed.project = s.project := by rw [hpassed, hset]
    refine hcounted.trans ((followRequest_stays hfollow (hpage.trans hsamePage.symm)).2 element ?_)
    change element ∈ passed.project.elementsOn passed.state.page
    rwa [hsamePage, hsameProject]
  · rw [fired, shown_eq, hsplit]
    exact filter_firedIn_turn hdistinct hearlier hvisit

/-- **A tick does the same to an element on which sessions agree.** Let two sessions of a design
with different ids show the same page at the same time, and let them agree on an element of the
page with steady graphs. Whatever else they hold, if their ticks return and stay on the page, then
the sessions agree on the element afterwards, and they have fired the same events of it. Processors
hear of these events, and of alerts of the element that were left waiting in their own session.

**Proof sketch.** Until the turn of the element a pass leaves alone all that its composition depends
on and how it shows; so the visit does the same in both sessions. What comes later leaves the
element alone again. -/
theorem tick_isolates_elements (hids : (project.elements.map (·.id)).Nodup)
    (hsteady : element.IsSteady project) (hs : s.IsLenient project processors)
    (hs' : s'.IsLenient project processors') (hpage : s'.state.page = s.state.page)
    (helement : element ∈ project.elementsOn s.state.page) (hagree : AgreeOn element.id s s')
    (htime : AtSameTime s s') (ht : s.tick = (none, t)) (ht' : s'.tick = (none, t'))
    (hstays : t.state.page = s.state.page) (hstays' : t'.state.page = s'.state.page) :
    AgreeOn element.id t t' ∧ ∃ events,
      s.fired.filter (Event.isOf element.id) = events ∧
      s'.fired.filter (Event.isOf element.id) = events ∧
      HearsOf processors element.id events s t ∧ HearsOf processors' element.id events s' t' := by
  have hproject : s'.project = s.project := hs'.project.trans hs.project.symm
  obtain ⟨m, n, hvisit, hbefore, hafter, hlenient, hfired⟩ :=
    tick_turn (by rwa [hs.project]) (by rwa [hs.project]) hs.dispatcher.strict ht hstays
  obtain ⟨m', n', hvisit', hbefore', hafter', hlenient', hfired'⟩ :=
    tick_turn (by rwa [hs'.project]) (by rwa [hs'.project, hpage]) hs'.dispatcher.strict ht' hstays'
  have hcomposes : ComposesAlike element.id m m' :=
    hbefore.composesAlike.symm.trans
      ((hagree.composesAlike_setTime hproject htime).trans hbefore'.composesAlike)
  have hlooks : LooksAlike element.id m m' :=
    hbefore.looksAlike.symm.trans
      ((hagree.looksAlike_setTime hproject htime).trans hbefore'.looksAlike)
  have hsteady' : element.IsSteady m.project := by
    obtain ⟨_, _, _, _, hset⟩ := setTime_frame s
    rw [hbefore.project, hset]
    exact hs.project ▸ hsteady
  have hsame : s'.fired.filter (Event.isOf element.id) =
      s.fired.filter (Event.isOf element.id) := by
    rw [hfired, hfired', hcomposes.posts hlenient hlenient' hsteady']
  refine ⟨?_, _, rfl, hsame, (hs.tickLaw ht).hearsOf _, ?_⟩
  · refine agreeOn_of_alike ?_ ?_
    · exact hafter.composesAlike.symm.trans
        ((hcomposes.visit hlenient hlenient' hsteady' hvisit hvisit' hcomposes).trans
          hafter'.composesAlike)
    · exact hafter.looksAlike.symm.trans
        ((hlooks.visit hlenient hlenient' hsteady' hvisit hvisit' hcomposes).trans
          hafter'.looksAlike)
  · rw [← hsame]
    exact (hs'.tickLaw ht').hearsOf _

/-! ## A bell next to a fuse -/

/-- The badge that rings next to the fuse. -/
def bell : Element :=
  { chimeElement ["ring"] with id := "bell" }

lemma fuse_isSteady : fuse.IsSteady := by
  decide +kernel

/-- The session of the bell and the fuse at the start. -/
def fuseStart : Session :=
  new fuse fuseDocument (.new [.recorder] false) (fun _ => 0.5) ⟨0, 1, []⟩

/-- The session after a tick that the fuse has ended when the bell had rung. -/
def fuseBlown : Session :=
  (receiveAll blown fuseStart).2

/-- The session after a tick that has returned. -/
def fuseWhole : Session :=
  (receiveAll [.tick] fuseStart).2

lemma isLenient_fuse :
    fuseBlown.IsLenient fuse [.recorder] ∧ fuseWhole.IsLenient fuse [.recorder] := by
  have hstart : fuseStart.IsLenient fuse [.recorder] := isLenient_new ..
  exact ⟨hstart.receiveAll blown, hstart.receiveAll [.tick]⟩

/-- Whether the fuse has blown or not, the bell is the same afterwards. -/
lemma agreeOn_bell : AgreeOn "bell" fuseBlown fuseWhole := by
  refine ⟨?_, ?_, ?_, ?_, ?_⟩
  all_goals decide +kernel

lemma atSameTime_fuse : AtSameTime fuseBlown fuseWhole := by
  refine ⟨?_, ?_⟩
  all_goals decide +kernel

/-- The bell is shown in both sessions. -/
lemma bell_shown : bell ∈ fuse.elementsOn fuseBlown.state.page ∧
    fuseWhole.state.page = fuseBlown.state.page := by
  refine ⟨?_, ?_⟩
  all_goals decide +kernel

/-- The next tick returns in both sessions and stays on the page. -/
lemma fuse_returns :
    fuseBlown.tick = (none, fuseBlown.tick.2) ∧ fuseWhole.tick = (none, fuseWhole.tick.2) ∧
      fuseBlown.tick.2.state.page = fuseBlown.state.page ∧
      fuseWhole.tick.2.state.page = fuseWhole.state.page := by
  refine ⟨tick_of_returns ?_, tick_of_returns ?_, ?_, ?_⟩
  all_goals decide +kernel

/-- The bell fires nothing in the next tick of either session, and they agree on it afterwards. -/
theorem bell_isolated_from_fuse :
    AgreeOn "bell" fuseBlown fuseWhole ∧ AtSameTime fuseBlown fuseWhole ∧
      AgreeOn "bell" fuseBlown.tick.2 fuseWhole.tick.2 ∧
      HearsOf [.recorder] "bell" [] fuseBlown fuseBlown.tick.2 ∧
      HearsOf [.recorder] "bell" [] fuseWhole fuseWhole.tick.2 := by
  obtain ⟨hlenient, hlenient'⟩ := isLenient_fuse
  obtain ⟨hon, hpage⟩ := bell_shown
  obtain ⟨ht, ht', hstays, hstays'⟩ := fuse_returns
  have hids : (fuse.elements.map (·.id)).Nodup := by decide +kernel
  have hsteady : bell.IsSteady fuse := fuse_isSteady bell List.mem_cons_self
  have hsilent : fuseBlown.fired.filter (Event.isOf "bell") = [] := by decide +kernel
  obtain ⟨hagree, events, hfired, -, hhears, hhears'⟩ :=
    tick_isolates_elements hids hsteady hlenient hlenient' hpage hon agreeOn_bell atSameTime_fuse
      ht ht' hstays hstays'
  obtain rfl : events = [] := hfired.symm.trans hsilent
  exact ⟨agreeOn_bell, atSameTime_fuse, hagree, hhears, hhears'⟩

/-- **Another element can delay an alert**: sessions that agree on an element can deliver different
alerts of it in a tick, if a fault has left one of them waiting. -/
theorem fault_delays_alert :
    ¬∀ (project : Project) (processors : List Processor) (element : Element)
      (s s' t t' : Session), (project.elements.map (·.id)).Nodup → project.IsSteady →
      s.IsLenient project processors → s'.IsLenient project processors →
      s'.state.page = s.state.page → element ∈ project.elementsOn s.state.page →
      AgreeOn element.id s s' → AtSameTime s s' → s.tick = (none, t) → s'.tick = (none, t') →
      t.state.page = s.state.page → t'.state.page = s'.state.page →
      ∀ position < processors.length, ∃ events,
        (heard t.dispatcher.journal position).filter (Event.isOf element.id) =
          (heard s.dispatcher.journal position).filter (Event.isOf element.id) ++ events ∧
        (heard t'.dispatcher.journal position).filter (Event.isOf element.id) =
          (heard s'.dispatcher.journal position).filter (Event.isOf element.id) ++ events := by
  intro hall
  obtain ⟨hlenient, hlenient'⟩ := isLenient_fuse
  obtain ⟨hon, hpage⟩ := bell_shown
  obtain ⟨ht, ht', hstays, hstays'⟩ := fuse_returns
  have hids : (fuse.elements.map (·.id)).Nodup := by decide +kernel
  have hbefore : heard fuseBlown.dispatcher.journal 0 = [] := by decide +kernel
  have hafter : (heard fuseBlown.tick.2.dispatcher.journal 0).filter (Event.isOf bell.id) =
      [.alert ⟨.str "ring", .str "ring", .str "bell"⟩ (.str "ding")] := by decide +kernel
  have hquiet : fuseWhole.tick.2.dispatcher.journal = fuseWhole.dispatcher.journal := by
    decide +kernel
  obtain ⟨events, hheard, hheard'⟩ := hall fuse [.recorder] bell fuseBlown fuseWhole
    fuseBlown.tick.2 fuseWhole.tick.2 hids fuse_isSteady hlenient hlenient' hpage hon agreeOn_bell
    atSameTime_fuse ht ht' hstays hstays' 0 (by decide)
  rw [hquiet] at hheard'
  obtain rfl : events = [] := List.self_eq_append_right.1 hheard'
  rw [hafter, hbefore] at hheard
  cases hheard

end Session

end DesignGraph
