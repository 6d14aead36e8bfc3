import DesignGraph.Proofs.Live.Elsewhere
import DesignGraph.Proofs.Live.Pass
import DesignGraph.Proofs.Live.TriggerStore
/-!
# Coming back to a page

Who leaves a page is forgotten: hover and click are off, and no triggers are remembered. As long as
nobody points at the elements of the page, nothing that happens on other pages changes that. So a
session that comes back composes the elements of the page as a session does that has just started:
to the same compositions, and what they fire is the same.

The elements themselves are not forgotten. They still show what they showed when the page was left,
and an animation that has to change may end in a fault where one that plays already would not.
Therefore the sessions agree as far as the passes of both get.

## Main definitions

* `DesignGraph.Input.isIdle` — inputs with which only time passes.
* `DesignGraph.Session.IsOff` — hover and click of an element are off.
* `DesignGraph.Session.IsClean` — nothing is remembered that graphs of a page can see.
* `DesignGraph.Session.Returns` — a session leaves its page and comes back to it.
* `DesignGraph.Session.IsFreshOn` — a new session that has just navigated to a page.
* `DesignGraph.Session.PassesAlike` — two passes do the same as far as both get.

## Main results

* `DesignGraph.Session.IsOff.step` — hover and click stay off unless somebody points.
* `DesignGraph.Session.Returns.isClean` — whoever comes back to a page is clean.
* `DesignGraph.Session.passesAlike` — sessions that compose elements alike pass over them alike.
* `DesignGraph.Session.return_starts_clean` — the first tick after a return does what the first tick
  of a new session does.
-/

set_option relaxedAutoImplicit false
set_option autoImplicit false

namespace DesignGraph

/-- What equals a text, or the lack of one, is that text. -/
lemma Value.eq_of_ofText?_equals {text : Option String} {v : Value}
    (h : (Value.ofText? text).equals v = true) : v = Value.ofText? text := by
  cases text <;> cases v <;> simp_all [ofText?, equals, alike]

/-- Whether an input lets time pass and does nothing else that graphs can see. -/
def Input.isIdle : Input → Bool
  | .mount | .stop | .advance _ => true
  | _ => false

namespace Session

variable {project : Project} {processors processors' : List Processor} {given : List Input}
  {page : Value} {id : String} {s s' t t' left back : Session}

/-! ## Hover and click stay off -/

/-- Hover and click of an element are off. -/
def IsOff (id : String) (s : Session) : Prop :=
  (s.state.context id).hovered = false ∧ (s.state.context id).clicked = false

lemma IsOff.congr (h : IsOff id s) (hpointer : s'.state.pointer id = s.state.pointer id) :
    IsOff id s' := by
  obtain ⟨hhovers, hclicks⟩ := Prod.ext_iff.1 hpointer
  simp only [LiveState.pointer] at hhovers hclicks
  simp only [IsOff, LiveState.context, hhovers, hclicks]
  exact h

/-- Who is not pointed at keeps hover and click. -/
lemma pointer_receive {input : Input} (hpoints : input.target?.isSome)
    (htarget : input.target? ≠ some (.str id)) :
    (s.receive input).2.state.pointer id = s.state.pointer id := by
  have hput (table : Table Bool) (target : Value) (a : Bool) (h : target ≠ .str id) :
      (table.put target a).get? (.str id) = table.get? (.str id) := by
    rw [Table.get?_put_str, if_neg h]
  cases input with
  | pointerEnter target | pointerLeave target | click target =>
    have hne : target ≠ .str id := fun heq => htarget (congrArg some heq)
    simp only [receive, LiveState.hover, LiveState.click, Value.asKey]
    split_ifs
    · simp [setState, LiveState.pointer, hput _ _ _ hne, bind, Except.bind, pure, Except.pure]
    · rfl
  | _ => cases hpoints

/-- Leaving a page turns hover and click off for its elements, and on for none. -/
lemma isOff_leavePage (h : id ∈ (s.project.elementsOn s.state.page).map (·.id) ∨ IsOff id s) :
    IsOff id s.leavePage := by
  have hpointer : s.leavePage.state.pointer id = _ :=
    LiveState.pointer_forget (s.project.elementsOn s.state.page) s.state id
  split_ifs at hpointer with hmem
  · simp only [LiveState.pointer, Prod.mk.injEq] at hpointer
    simp [IsOff, LiveState.context, hpointer]
  · exact (h.resolve_left hmem).congr hpointer

/-- A change of page turns hover and click on for nobody. -/
lemma IsOff.navigateTo (h : IsOff id s) (page : Value) : IsOff id (s.navigateTo page).2 := by
  have hleft : IsOff id s.leavePage := isOff_leavePage (.inr h)
  rcases navigateTo_effects page s with ⟨-, heq⟩ | ⟨-, -, heq⟩ | ⟨-, -, _, _, _, -, heq⟩ <;>
    rw [heq]
  · exact h
  · exact hleft
  · exact hleft

/-- **Hover and click stay off** unless somebody points at the element. -/
lemma IsOff.step (hgiven : ∀ input ∈ given, input.target? ≠ some (.str id)) (h : IsOff id s)
    (hstep : Step given s s') : IsOff id s' := by
  cases hstep with
  | aside | shutdown | ask => exact h
  | point input hinput hpoints => exact h.congr (pointer_receive hpoints (hgiven input hinput))
  | visit element =>
    rcases visit_effects element s with heq | ⟨_, _, _, -, heq⟩ <;> rw [heq] <;> exact h
  | flush =>
    rw [flush_effects]
    exact h
  | follow =>
    have hasked : IsOff id { s with pendingPage := .null } := h
    exact hasked.navigateTo _
  | navigate page => exact h.navigateTo page

/-- The page that a session shows is neither a list nor an object. -/
lemma isKey_page_step (h : s.state.page.isKey = true) (hstep : Step given s s') :
    s'.state.page.isKey = true := by
  have hnavigate (s : Session) (page : Value) (h : s.state.page.isKey = true) :
      (s.navigateTo page).2.state.page.isKey = true := by
    rcases navigateTo_effects page s with ⟨-, heq⟩ | ⟨-, -, heq⟩ | ⟨-, hkey, _, _, _, -, heq⟩ <;>
      rw [heq]
    · exact h
    · rwa [(leavePage_effects s).2.1]
    · exact hkey
  cases hstep with
  | aside | shutdown | ask => exact h
  | point input _ hpoints =>
    obtain ⟨_, _, heq⟩ := receive_pointing hpoints s
    rwa [heq]
  | visit element => rwa [(visit_keeps_page element s).2]
  | flush => rwa [flush_effects]
  | follow => exact hnavigate { s with pendingPage := .null } _ h
  | navigate page => exact hnavigate s page h

/-- Inputs after others are taken by the session to which these have led. -/
lemma receiveAll_append (inputs more : List Input) (s : Session) :
    (receiveAll (inputs ++ more) s).2 = (receiveAll more (receiveAll inputs s).2).2 := by
  induction inputs generalizing s with
  | nil => rfl
  | cons input rest ih => exact ih (s.receive input).2

/-! ## Clean sessions -/

/-- Nothing is remembered that the graphs of a page can see: hover and click of its elements are
off, and there are no triggers. -/
structure IsClean (project : Project) (processors : List Processor) (page : Value) (s : Session) :
    Prop where
  off : ∀ element ∈ project.elementsOn page, IsOff element.id s
  triggers : s.state.triggers = []
  lenient : s.IsLenient project processors

/-- A new session is clean. -/
lemma isClean_new (project : Project) (page : Value) (document : Document)
    (processors : List Processor) (samples : Nat → Float) (clock : Clock) :
    IsClean project processors page
      (new project document (.new processors false) samples clock) :=
  ⟨fun _ _ => ⟨rfl, rfl⟩, rfl, isLenient_new ..⟩

/-- Idle inputs keep a session clean, and the page that it shows. -/
lemma IsClean.idle {inputs : List Input} (h : IsClean project processors page s)
    (hidle : ∀ input ∈ inputs, input.isIdle = true) :
    IsClean project processors page (receiveAll inputs s).2 ∧
      (receiveAll inputs s).2.state.page = s.state.page := by
  induction inputs generalizing s with
  | nil => exact ⟨h, rfl⟩
  | cons input rest ih =>
    obtain ⟨hfirst, hrest⟩ := List.forall_mem_cons.1 hidle
    suffices hkept : IsClean project processors page (s.receive input).2 ∧
        (s.receive input).2.state.page = s.state.page by
      obtain ⟨hclean, hpage⟩ := ih hkept.1 hrest
      exact ⟨hclean, hpage.trans hkept.2⟩
    obtain ⟨hoff, htriggers, hlenient⟩ := h
    cases input with
    | mount =>
      obtain ⟨animations, hmounted⟩ := mount_frame s
      rw [receive, hmounted]
      exact ⟨⟨hoff, htriggers, hlenient.congr rfl rfl⟩, rfl⟩
    | stop | advance => exact ⟨⟨hoff, htriggers, hlenient.congr rfl rfl⟩, rfl⟩
    | _ => cases hfirst

/-- A change of page keeps a session clean. -/
lemma IsClean.navigateTo (h : IsClean project processors page s) (other : Value) :
    IsClean project processors page (s.navigateTo other).2 := by
  refine ⟨fun element helement => (h.off element helement).navigateTo other, ?_,
    h.lenient.navigateTo other⟩
  cases hequals : s.state.page.equals other with
  | true =>
    rw [Session.navigateTo, if_pos hequals]
    exact h.triggers
  | false =>
    exact (remembersShown_of_nil h.lenient.project h.triggers).triggers_navigateTo hequals

/-- A session that navigates to a page shows it. -/
lemma page_navigateTo (hkey : page.isKey = true) (h : s.state.page.equals page = false) :
    (s.navigateTo page).2.state.page = page := by
  rcases navigateTo_effects page s with ⟨hequals, -⟩ | ⟨-, hnot, -⟩ | ⟨-, -, _, _, _, -, heq⟩
  · exact absurd (hequals.symm.trans h) (by decide)
  · exact absurd (hkey.symm.trans hnot) (by decide)
  · rw [heq]

/-- A new session of the design has navigated to a page; before and after that, time passed. -/
def IsFreshOn (project : Project) (processors : List Processor) (page : Value) (s : Session) :
    Prop :=
  ∃ document samples clock early late, (∀ input ∈ early ++ late, input.isIdle = true) ∧
    (receiveAll (early ++ .navigateTo page :: late)
      (new project document (.new processors false) samples clock)).2 = s

/-- From `s`, inputs lead away from its page to `left`, which shows another one, and back to the
page as `back`. Elsewhere nobody points at the elements of the page, and after the return time
passes. -/
structure Returns (s left back : Session) : Prop where
  leaves : ∃ other away, s.state.page.equals other = false ∧
    (∀ input ∈ away, ∀ element ∈ s.project.elementsOn s.state.page,
      input.target? ≠ some (.str element.id)) ∧
    (receiveAll (.navigateTo other :: away) s).2 = left
  gone : left.state.page.equals s.state.page = false
  comes : ∃ late, (∀ input ∈ late, input.isIdle = true) ∧
    (receiveAll (.navigateTo s.state.page :: late) left).2 = back

/-- A new session that has navigated to a page is clean and shows that page. -/
lemma IsFreshOn.isClean (h : IsFreshOn project processors page s) (hkey : page.isKey = true) :
    IsClean project processors page s ∧ s.state.page = page := by
  obtain ⟨document, samples, clock, early, late, hidle, hs⟩ := h
  obtain ⟨hearly, hlate⟩ := List.forall_mem_append.1 hidle
  rw [receiveAll_append] at hs
  have hnew : IsClean project processors page
      (new project document (.new processors false) samples clock) := isClean_new ..
  obtain ⟨hclean, hfirst⟩ := hnew.idle hearly
  generalize (receiveAll early (new project document (.new processors false) samples clock)).2 = m
    at hs hclean hfirst
  obtain ⟨hthen, hstays⟩ := (hclean.navigateTo page).idle hlate
  have harrived : (m.navigateTo page).2.state.page = page := by
    cases hequals : m.state.page.equals page with
    | true =>
      rw [navigateTo, if_pos hequals]
      rw [hfirst] at hequals ⊢
      exact (Value.eq_of_ofText?_equals hequals).symm
    | false => exact page_navigateTo hkey hequals
  rw [← hs]
  exact ⟨hthen, hstays.trans harrived⟩

/-- Elsewhere, hover and click of the elements of the page are off. -/
lemma Returns.isOff (h : Returns s left back) {element : Element}
    (helement : element ∈ s.project.elementsOn s.state.page) : IsOff element.id left := by
  obtain ⟨other, away, hother, haway, hleft⟩ := h.leaves
  have hforgotten : IsOff element.id (s.navigateTo other).2 := by
    have hleave : IsOff element.id s.leavePage :=
      isOff_leavePage (.inl (List.mem_map_of_mem helement))
    rcases navigateTo_effects other s with ⟨hequals, -⟩ | ⟨-, -, heq⟩ | ⟨-, -, _, _, _, -, heq⟩
    · exact absurd (hequals.symm.trans hother) (by decide)
    · rwa [heq]
    · rw [heq]
      exact hleave
  have hkept : IsOff element.id (receiveAll away (s.navigateTo other).2).2 :=
    receiveAll_induct
      (fun _ _ hstep h => h.step (fun input hinput => haway input hinput element helement) hstep)
      hforgotten
  rwa [← hleft]

/-- **Whoever comes back to a page is clean** and shows that page. -/
lemma Returns.isClean (h : Returns s left back) (hs : s.IsLenient project processors)
    (hmemory : RemembersShown project s) (hkey : s.state.page.isKey = true) :
    IsClean project processors s.state.page back ∧ back.state.page = s.state.page := by
  obtain ⟨_, _, -, -, hleft⟩ := h.leaves
  obtain ⟨late, hlate, hback⟩ := h.comes
  have hlenient : left.IsLenient project processors := hleft ▸ hs.receiveAll _
  have hshown : RemembersShown project left :=
    hleft ▸ receiveAll_induct (fun _ _ hstep h => h.step hstep) hmemory
  have hclean : IsClean project processors s.state.page (left.navigateTo s.state.page).2 := by
    refine ⟨fun element helement => ?_, hshown.triggers_navigateTo h.gone, hlenient.navigateTo _⟩
    rw [← hs.project] at helement
    exact (h.isOff helement).navigateTo _
  obtain ⟨hthen, hstays⟩ := hclean.idle hlate
  rw [← hback]
  exact ⟨hthen, hstays.trans (page_navigateTo hkey h.gone)⟩

/-! ## Passes -/

/-- Two passes over elements do the same as far as both get: when the turn of an element comes, it
is on the screen in both or in none, its composition is the same or ends in the same fault, and its
graphs fire the same. -/
def PassesAlike (elements : List Element) (s s' : Session) : Prop :=
  ∀ earlier element later m m', elements = earlier ++ element :: later →
    visitAll earlier s = (none, m) → visitAll earlier s' = (none, m') →
      m'.isMounted element.id = m.isMounted element.id ∧
      (Composition.compose (m'.setting element) (m'.progress element)).1 =
        (Composition.compose (m.setting element) (m.progress element)).1 ∧
      m'.posts element = m.posts element

section Passes

variable {elements : List Element} (hs : s.dispatcher.strict = false)
  (hs' : s'.dispatcher.strict = false)
  (hsteady : ∀ element ∈ elements, element.IsSteady s.project)
  (halike : ∀ element ∈ elements, ComposesAlike element.id s s')

include hs hs' hsteady halike

/-- A pass leaves sessions in agreement. -/
lemma visitAll_composesAlike (h : visitAll elements s = (none, t))
    (h' : visitAll elements s' = (none, t')) (hid : ComposesAlike id s s') :
    ComposesAlike id t t' := by
  induction elements generalizing s s' with
  | nil =>
    cases h
    cases h'
    exact hid
  | cons element rest ih =>
    obtain ⟨s₁, hvisit, hrest⟩ := visitAll_cons h
    obtain ⟨s₁', hvisit', hrest'⟩ := visitAll_cons h'
    obtain ⟨hfirst, hothers⟩ := List.forall_mem_cons.1 halike
    obtain ⟨hsteadyFirst, hsteadyOthers⟩ := List.forall_mem_cons.1 hsteady
    have hvisited (id : String) (hid : ComposesAlike id s s') : ComposesAlike id s₁ s₁' :=
      hfirst.visit hs hs' hsteadyFirst hvisit hvisit' hid
    have hproject : s₁.project = s.project := by
      rw [show s₁ = (s.visit element).2 by rw [hvisit], (visit_keeps_page element s).1]
    refine ih ((visit_takes hs hvisit).lenient hs) ((visit_takes hs' hvisit').lenient hs') ?_ ?_
      hrest hrest' (hvisited id hid)
    · rwa [hproject]
    · exact fun other hother => hvisited other.id (hothers other hother)

/-- **Sessions that compose elements alike pass over them alike.** -/
lemma passesAlike : PassesAlike elements s s' := by
  rintro earlier element later m m' rfl hearlier hearlier'
  have hmem : element ∈ earlier ++ element :: later := by simp
  have hlenient : m.dispatcher.strict = false := (visitAll_takes hs hearlier).lenient hs
  have hlenient' : m'.dispatcher.strict = false := (visitAll_takes hs' hearlier').lenient hs'
  have hreached : ComposesAlike element.id m m' :=
    visitAll_composesAlike hs hs'
      (fun other hother => hsteady other (List.mem_append_left _ hother))
      (fun other hother => halike other (List.mem_append_left _ hother)) hearlier hearlier'
      (halike element hmem)
  have hproject : m.project = s.project := by
    rw [show m = (visitAll earlier s).2 by rw [hearlier], (visitAll_keeps_page earlier s).1]
  have hsteadyHere : element.IsSteady m.project := hproject ▸ hsteady element hmem
  exact ⟨hreached.mounted, (hreached.composition hlenient hlenient' hsteadyHere).1,
    hreached.posts hlenient hlenient' hsteadyHere⟩

end Passes

/-- Passes that do the same and both return fire the same. -/
lemma PassesAlike.firedIn {elements : List Element} (hpasses : PassesAlike elements s s')
    (h : visitAll elements s = (none, t)) (h' : visitAll elements s' = (none, t')) :
    firedIn elements s' = Session.firedIn elements s := by
  induction elements generalizing s s' with
  | nil => rfl
  | cons element rest ih =>
    obtain ⟨s₁, hvisit, hrest⟩ := visitAll_cons h
    obtain ⟨s₁', hvisit', hrest'⟩ := visitAll_cons h'
    obtain ⟨-, -, hfirst⟩ := hpasses [] element rest s s' rfl rfl rfl
    have hthen : PassesAlike rest s₁ s₁' := by
      rintro earlier other later m m' rfl hm hm'
      refine hpasses (element :: earlier) other later m m' rfl ?_ ?_
      · rw [visitAll, hvisit]
        exact hm
      · rw [visitAll, hvisit']
        exact hm'
    rw [Session.firedIn, Session.firedIn, firedBy_eq_posts hvisit, firedBy_eq_posts hvisit', hfirst,
      hvisit, hvisit', ih hthen hrest hrest']

/-! ## The first tick after a return -/

/-- Clean sessions that show the page compose its elements alike, if their next ticks are at the
same time and the elements are on the screen in both. -/
lemma IsClean.composesAlike {element : Element} (h : IsClean project processors page s)
    (h' : IsClean project processors' page s')
    (htime : s'.setTime.state.time = s.setTime.state.time)
    (helement : element ∈ project.elementsOn page)
    (hmounted : s'.isMounted element.id = s.isMounted element.id) :
    ComposesAlike element.id s.setTime s'.setTime := by
  obtain ⟨_, _, _, _, hset⟩ := setTime_frame s
  obtain ⟨_, _, _, _, hset'⟩ := setTime_frame s'
  rw [hset, hset'] at htime ⊢
  obtain ⟨hhovered, hclicked⟩ := h.off element helement
  obtain ⟨hhovered', hclicked'⟩ := h'.off element helement
  refine ⟨h'.lenient.project.trans h.lenient.project.symm, ?_, ?_, hmounted⟩
  · simp only [LiveState.context] at hhovered hclicked hhovered' hclicked' htime ⊢
    rw [hhovered, hclicked, hhovered', hclicked', htime]
  · simp only [LiveState.triggersOf, h.triggers, h'.triggers]

/-- Clean sessions on a page pass over it alike in their next ticks. -/
lemma IsClean.passesAlike (hsteady : project.IsSteady) (h : IsClean project processors page s)
    (h' : IsClean project processors' page s')
    (hmounted : ∀ element ∈ project.elementsOn page,
      s'.isMounted element.id = s.isMounted element.id)
    (htime : s'.setTime.state.time = s.setTime.state.time) :
    PassesAlike (project.elementsOn page) s.setTime s'.setTime := by
  refine Session.passesAlike ?_ ?_ ?_ ?_
  · rw [(setTime_outlet s).1, h.lenient.dispatcher.strict]
  · rw [(setTime_outlet s').1, h'.lenient.dispatcher.strict]
  · intro element helement
    rw [(setTime_keeps s).1, h.lenient.project]
    exact hsteady element (List.mem_of_mem_filter helement)
  · exact fun element helement => h.composesAlike h' htime helement (hmounted element helement)

/-- Ticks whose passes do the same fire the same, if both return. -/
lemma PassesAlike.fired (h : PassesAlike s.shown s.setTime s'.setTime) (hshown : s'.shown = s.shown)
    (ht : s.tick = (none, t)) (ht' : s'.tick = (none, t')) : s'.fired = s.fired := by
  obtain ⟨_, _, _, hall, -⟩ := tick_ok ht
  obtain ⟨_, _, _, hall', -⟩ := tick_ok ht'
  rw [hshown] at hall'
  rw [Session.fired, Session.fired, hshown, h.firedIn hall hall']

/-- **The first tick after a return does what the first tick of a new session does.** A session of a
design without random nodes, whatever inputs it got and whatever faults there were, leaves its page
and comes back. Compare it with a new session, with its own document, processors, samples and clock,
that has just navigated to the page. If their next ticks are at the same time and the same elements
are on the screen, then both pass over the page alike: as far as both get, elements have the same
composition and fire the same. If both ticks return, then they have fired the same events, in the
same order.

**Proof sketch.** What the graphs of the page can see is forgotten when the page is left, and it is
not remembered anew elsewhere: no step there visits an element of the page, and hover and click are
only switched on by pointing. So back on the page the session is clean, as a new one is; and clean
sessions agree on each element of the page, from one visit to the next. -/
theorem return_starts_clean {document : Document} {samples : Nat → Float} {clock : Clock}
    {inputs : List Input} {fresh : Session} (hsteady : project.IsSteady)
    (hs : (receiveAll inputs (new project document (.new processors false) samples clock)).2 = s)
    (hreturns : Returns s left back) (hfresh : IsFreshOn project processors' s.state.page fresh)
    (hmounted : ∀ element ∈ project.elementsOn s.state.page,
      fresh.isMounted element.id = back.isMounted element.id)
    (htime : fresh.setTime.state.time = back.setTime.state.time) :
    back.shown = project.elementsOn s.state.page ∧ fresh.shown = back.shown ∧
      PassesAlike back.shown back.setTime fresh.setTime ∧
      ∀ t t', back.tick = (none, t) → fresh.tick = (none, t') → fresh.fired = back.fired := by
  have hlenient : s.IsLenient project processors := hs ▸ (isLenient_new ..).receiveAll inputs
  have hmemory : RemembersShown project s :=
    hs ▸ receiveAll_induct (fun _ _ hstep h => h.step hstep) (remembersShown_of_nil rfl rfl)
  have hkey : s.state.page.isKey = true := by
    have hstart : (Value.ofText? (project.pages.head?.map (·.id))).isKey = true := by
      cases project.pages.head? <;> rfl
    exact hs ▸ receiveAll_induct (P := fun s => s.state.page.isKey = true)
      (fun _ _ hstep h => isKey_page_step h hstep) hstart
  obtain ⟨hclean, hpage⟩ := hreturns.isClean hlenient hmemory hkey
  obtain ⟨hclean', hpage'⟩ := hfresh.isClean hkey
  have hshown : back.shown = project.elementsOn s.state.page := by
    rw [shown_eq, hclean.lenient.project, hpage]
  have hshown' : fresh.shown = back.shown := by
    rw [hshown, shown_eq, hclean'.lenient.project, hpage']
  have hpasses : PassesAlike back.shown back.setTime fresh.setTime := by
    rw [hshown]
    exact hclean.passesAlike hsteady hclean' hmounted htime
  exact ⟨hshown, hshown', hpasses, fun _ _ => hpasses.fired hshown'⟩

/-! ## A beacon next to a bell -/

/-- A script that lets its badge spin with the pointer over it. Without, the animation that it gives
is a number too large for a double. -/
def beaconScript : Graph :=
  ⟨[⟨"over", "INTERACTION_HOVER", []⟩, ⟨"spin", "ANIMATION", [("value", .str "spin")]⟩,
      ⟨"load", "NUMBER", [("value", .obj [("animation", .int (.ofNat (Nat.pow 10 400)))])]⟩,
      ⟨"gate", "IF_ELSE", []⟩, ⟨"out", "OUTPUT", []⟩],
    [⟨"over", "gate", "in-condition"⟩, ⟨"spin", "gate", "in-true"⟩, ⟨"load", "gate", "in-false"⟩,
      ⟨"gate", "out", "in-style"⟩], .str "beacon", .null⟩

/-- The badge that spins, followed by one that rings. -/
def beacon : Project :=
  { chime [] with
    elements := [{ chimeElement ["beacon"] with id := "beacon" }, bell]
    pages := [⟨"home", .null⟩, ⟨"about", .null⟩]
    scripts := [chimeScript "ring" "ring" true, beaconScript] }

/-- The badges as they are at first: the number is the animation that shows. -/
def beaconDocument : Document :=
  ⟨[("beacon", ⟨"", [("animation", .int (.ofNat (Nat.pow 10 400)))], true, 0, 0⟩),
      ("bell", ⟨"", [], true, 0, 0⟩)], [.str "home"]⟩

/-- The session of beacon and bell after the given inputs. -/
def beaconAfter (inputs : List Input) : Session :=
  (receiveAll inputs (new beacon beaconDocument (.new [.recorder] false) (fun _ => 0.5)
    ⟨0, 0, []⟩)).2

/-- The session after the given inputs, a tick on another page and the return. -/
def beaconBack (inputs : List Input) : Session :=
  beaconAfter (inputs ++ [.navigateTo (.str "about"), .tick, .navigateTo (.str "home")])

/-- A new session of beacon and bell that has navigated to their page. -/
def beaconFresh : Session :=
  beaconAfter [.navigateTo (.str "home")]

lemma beacon_isSteady : beacon.IsSteady := by
  decide +kernel

lemma beacon_isFreshOn {page : Value} (hpage : page = .str "home") :
    IsFreshOn beacon [.recorder] page beaconFresh := by
  subst hpage
  exact ⟨beaconDocument, fun _ => 0.5, ⟨0, 0, []⟩, [], [], nofun, rfl⟩

/-- The session after more inputs. -/
lemma beaconAfter_append (inputs more : List Input) :
    beaconAfter (inputs ++ more) = (receiveAll more (beaconAfter inputs)).2 :=
  receiveAll_append inputs more _

/-- On the other page a tick is all that happens. -/
lemma beacon_returns {inputs : List Input} (hpage : (beaconAfter inputs).state.page = .str "home")
    (haway : (beaconAfter (inputs ++ [.navigateTo (.str "about"), .tick])).state.page =
      .str "about") :
    Returns (beaconAfter inputs)
      (beaconAfter (inputs ++ [.navigateTo (.str "about"), .tick])) (beaconBack inputs) where
  leaves := by
    refine ⟨.str "about", [.tick], ?_, ?_, (beaconAfter_append _ _).symm⟩
    · rw [hpage]
      decide
    · intro input hinput element _ htarget
      obtain rfl := List.mem_singleton.1 hinput
      cases htarget
  gone := by
    rw [hpage, haway]
    decide
  comes := by
    refine ⟨[], nofun, ?_⟩
    rw [hpage, ← beaconAfter_append, List.append_assoc]
    rfl

/-- Back on its page, the bell rings again as in a new session. -/
theorem bell_rings_after_return :
    (beaconBack [.tick]).tick.1 = none ∧ beaconFresh.tick.1 = none ∧
      beaconFresh.fired = (beaconBack [.tick]).fired ∧
      (beaconBack [.tick]).fired =
        [.alert ⟨.str "ring", .str "ring", .str "bell"⟩ (.str "ding")] := by
  have hpage : (beaconAfter [.tick]).state.page = .str "home" := by decide +kernel
  have haway : (beaconAfter ([.tick] ++ [.navigateTo (.str "about"), .tick])).state.page =
      .str "about" := by decide +kernel
  have hreturns : (beaconBack [.tick]).tick.1 = none := by decide +kernel
  have hreturns' : beaconFresh.tick.1 = none := by decide +kernel
  have hfired : (beaconBack [.tick]).fired =
      [.alert ⟨.str "ring", .str "ring", .str "bell"⟩ (.str "ding")] := by decide +kernel
  have hfresh : IsFreshOn beacon [.recorder] (beaconAfter [.tick]).state.page beaconFresh :=
    beacon_isFreshOn hpage
  have hmounted : ∀ element ∈ beacon.elementsOn (beaconAfter [.tick]).state.page,
      beaconFresh.isMounted element.id = (beaconBack [.tick]).isMounted element.id := by
    decide +kernel
  have htime : beaconFresh.setTime.state.time = (beaconBack [.tick]).setTime.state.time := by
    decide +kernel
  have hs : (receiveAll [.tick] (new beacon beaconDocument (.new [.recorder] false) (fun _ => 0.5)
      ⟨0, 0, []⟩)).2 = beaconAfter [.tick] := rfl
  have hback : Returns (beaconAfter [.tick]) _ (beaconBack [.tick]) := beacon_returns hpage haway
  obtain ⟨-, -, -, hsame⟩ :=
    return_starts_clean beacon_isSteady hs hback hfresh hmounted htime
  exact ⟨hreturns, hreturns', hsame _ _ (tick_of_returns hreturns) (tick_of_returns hreturns'),
    hfired⟩

/-- **An animation that is left behind can end the first tick**: after a return a tick can end in a
fault before it comes to an element whose alert a new session delivers. -/
theorem return_can_fault :
    ¬∀ (project : Project) (processors : List Processor) (document : Document)
      (samples : Nat → Float) (clock : Clock) (inputs : List Input) (s left back fresh : Session)
      (element : Element), project.IsSteady →
      (receiveAll inputs (new project document (.new processors false) samples clock)).2 = s →
      Returns s left back → IsFreshOn project processors s.state.page fresh →
      (∀ element ∈ project.elementsOn s.state.page,
        fresh.isMounted element.id = back.isMounted element.id) →
      fresh.setTime.state.time = back.setTime.state.time →
      element ∈ project.elementsOn s.state.page → ∀ position < processors.length, ∃ events,
        (heard back.tick.2.dispatcher.journal position).filter (Event.isOf element.id) =
          (heard back.dispatcher.journal position).filter (Event.isOf element.id) ++ events ∧
        (heard fresh.tick.2.dispatcher.journal position).filter (Event.isOf element.id) =
          (heard fresh.dispatcher.journal position).filter (Event.isOf element.id) ++ events := by
  intro hall
  let inputs : List Input := [.pointerEnter (.str "beacon"), .tick]
  have hpage : (beaconAfter inputs).state.page = .str "home" := by decide +kernel
  have haway : (beaconAfter (inputs ++ [.navigateTo (.str "about"), .tick])).state.page =
      .str "about" := by decide +kernel
  have hs : (receiveAll inputs (new beacon beaconDocument (.new [.recorder] false) (fun _ => 0.5)
      ⟨0, 0, []⟩)).2 = beaconAfter inputs := rfl
  have hback : Returns (beaconAfter inputs) _ (beaconBack inputs) := beacon_returns hpage haway
  have hfresh : IsFreshOn beacon [.recorder] (beaconAfter inputs).state.page beaconFresh :=
    beacon_isFreshOn hpage
  have hmounted : ∀ element ∈ beacon.elementsOn (beaconAfter inputs).state.page,
      beaconFresh.isMounted element.id = (beaconBack inputs).isMounted element.id := by
    decide +kernel
  have htime : beaconFresh.setTime.state.time = (beaconBack inputs).setTime.state.time := by
    decide +kernel
  have hbell : bell ∈ beacon.elementsOn (beaconAfter inputs).state.page := by decide +kernel
  have hquiet : heard (beaconBack inputs).tick.2.dispatcher.journal 0 =
      heard (beaconBack inputs).dispatcher.journal 0 := by decide +kernel
  have hrings : (heard beaconFresh.tick.2.dispatcher.journal 0).filter (Event.isOf bell.id) ≠
      (heard beaconFresh.dispatcher.journal 0).filter (Event.isOf bell.id) := by decide +kernel
  obtain ⟨events, hheard, hheard'⟩ := hall beacon [.recorder] beaconDocument (fun _ => 0.5)
    ⟨0, 0, []⟩ inputs (beaconAfter inputs) _ (beaconBack inputs) beaconFresh bell beacon_isSteady hs
    hback hfresh hmounted htime hbell 0 (by decide)
  rw [hquiet] at hheard
  obtain rfl : events = [] := List.self_eq_append_right.1 hheard
  exact hrings (hheard'.trans (List.append_nil _))

end Session

end DesignGraph
