import DesignGraph.Proofs.Composition.Muted
import DesignGraph.Proofs.Live.Apply
import DesignGraph.Proofs.Live.EventOrder
/-!
# What a visit depends on

All elements of a page share one pass, one dispatcher and one queue of alerts. Yet a visit looks at
its own element only: at hover, click and time as the element sees them, at its triggers, at how it
shows and at the animation that is tracked of it. Sessions that agree on these compose the element
alike, bring it in line alike and fire the same for it, whatever they hold otherwise.

## Main definitions

* `DesignGraph.Event.isOf` — an event names an element.
* `DesignGraph.LiveElement.visited` — how an element comes to show a composition.
* `DesignGraph.Session.posts` — what a visit fires, also if it ends in a fault.
* `DesignGraph.Session.ComposesAlike` — two sessions agree on what a composition depends on.
* `DesignGraph.Session.LooksAlike` — they agree on how an element shows.

## Main results

* `DesignGraph.Session.visit_shows` — all that a visit does to its element.
* `DesignGraph.Session.visit_posts` — a visit delivers what the graphs of its element fire.
* `DesignGraph.Session.ComposesAlike.composition`, `DesignGraph.Session.ComposesAlike.posts` —
  sessions that agree compose an element alike and fire the same for it.
* `DesignGraph.Session.ComposesAlike.visit`, `DesignGraph.Session.LooksAlike.visit` — a visit leaves
  them in agreement.
* `DesignGraph.Session.visitAll_turn`, `DesignGraph.Session.filter_firedIn_turn` — a pass comes to
  each element once.
-/

set_option relaxedAutoImplicit false
set_option autoImplicit false

namespace DesignGraph

/-- Whether an event names the element with the given id as the one that it comes from. -/
def Event.isOf (id : String) (event : Event) : Bool :=
  event.origin?.any fun origin => origin.element = .str id

/-- The event of an action of an element names that element and no other one. -/
lemma Event.isOf_ofAction (id other : String) (node graph : Value) (action : Action) :
    (ofAction ⟨node, graph, .str other⟩ action).isOf id = decide (other = id) := by
  cases action <;> simp [ofAction, isOf, origin?]

/-! ## Bringing an element in line -/

namespace LiveElement

/-- An element with the computed animation of a composition shown unless it is the tracked one: a
fault if there is one, how the element shows, and which animation is tracked of it. -/
def withAnimation (c : Composition) (tracked : Option Value) (live : LiveElement) :
    Option Fault × LiveElement × Option Value :=
  match Fields.get? c.computed.style "animation" with
  | none => (none, live, tracked)
  | some desired =>
    if (tracked.getD .null).equals desired then (none, live, tracked)
    else
      match live.animate desired with
      | .ok live => (none, live, some desired)
      | .error fault => (some fault, live, some desired)

/-- What bringing an element in line with a composition comes to: a fault if there is one, how the
element shows, and which animation is tracked of it. -/
def broughtInLine (element : Element) (c : Composition) (tracked : Option Value)
    (live : LiveElement) : Option Fault × LiveElement × Option Value :=
  match (withText element c live).applyStyles c.computed.style followedKeys with
  | (some fault, live) => (some fault, live, tracked)
  | (none, live) => withAnimation c tracked live

variable {element : Element} {c : Composition} {tracked : Option Value} {live : LiveElement}

/-- How an element that is visited comes to show a composition, and which animation is tracked of
it then: it is brought in line if it has graphs. -/
def visited (element : Element) (c : Composition) (tracked : Option Value) (live : LiveElement) :
    LiveElement × Option Value :=
  if c.dynamic then (broughtInLine element c tracked live).2 else (live, tracked)

/-- The animation that mounting tracks of an element: the one that it plays, unless that is a text
of nothing but white space. -/
def adopted (live : LiveElement) : Option Value :=
  if plays live.animation && !isBlankText live.animation then some live.animation else none

/-- Writing style entries touches nothing but the style, also up to a fault. -/
lemma applyStyles_keeps (computed : Fields) (keys : List String) (live : LiveElement) :
    ∃ style, (applyStyles computed keys live).2 = { live with style := style } := by
  induction keys generalizing live with
  | nil => exact ⟨live.style, rfl⟩
  | cons key rest ih =>
    rw [applyStyles]
    rcases Fields.get? computed key with _ | v
    · exact ih live
    · dsimp only
      rcases shownValue key v with fault | shown
      · exact ⟨live.style, rfl⟩
      · exact ih (live.setStyle key shown)

/-- Showing an animation touches nothing but the style and the number of reflows. -/
lemma animate_keeps {animation : Value} {live' : LiveElement}
    (h : live.animate animation = .ok live') :
    live'.mounted = live.mounted ∧ live'.textWrites = live.textWrites := by
  rw [animate] at h
  rcases htruthy : Coercion.truthy animation with fault | shows
  · rw [htruthy] at h
    cases h
  · simp only [htruthy, bind, Except.bind, pure, Except.pure] at h
    split_ifs at h <;> cases h <;> exact ⟨rfl, rfl⟩

/-- The computed animation touches nothing but the style and the number of reflows. -/
lemma withAnimation_keeps (c : Composition) (tracked : Option Value) (live : LiveElement) :
    (withAnimation c tracked live).2.1.mounted = live.mounted ∧
      (withAnimation c tracked live).2.1.textWrites = live.textWrites := by
  rw [withAnimation]
  rcases Fields.get? c.computed.style "animation" with _ | desired
  · exact ⟨rfl, rfl⟩
  dsimp only
  split_ifs
  · exact ⟨rfl, rfl⟩
  rcases hshows : live.animate desired with fault | live'
  · exact ⟨rfl, rfl⟩
  · exact animate_keeps hshows

/-- Text and style are brought in line without a reflow, and the text is written only if needed. -/
lemma applyStyles_withText_keeps (element : Element) (c : Composition) (live : LiveElement) :
    ∃ text style, ((withText element c live).applyStyles c.computed.style followedKeys).2 =
      { live with
        text := text, style := style
        textWrites := live.textWrites + if needsText element c live then 1 else 0 } := by
  obtain ⟨style, hstyles⟩ := applyStyles_keeps c.computed.style followedKeys
    (withText element c live)
  refine ⟨(withText element c live).text, style, ?_⟩
  rw [hstyles, (withText_spec element c live).2]

/-- **Whatever is computed**, bringing an element in line leaves it on the screen or off it, and
writes its text only if needed. -/
lemma broughtInLine_keeps (element : Element) (c : Composition) (tracked : Option Value)
    (live : LiveElement) :
    (broughtInLine element c tracked live).2.1.mounted = live.mounted ∧
      (broughtInLine element c tracked live).2.1.textWrites =
        live.textWrites + if needsText element c live then 1 else 0 := by
  obtain ⟨text, style, hkept⟩ := applyStyles_withText_keeps element c live
  rw [broughtInLine]
  rcases hstyles : (withText element c live).applyStyles c.computed.style followedKeys with
    ⟨_ | fault, shown⟩ <;> rw [hstyles] at hkept <;> dsimp only at hkept ⊢ <;> subst hkept
  · exact withAnimation_keeps c tracked _
  · exact ⟨rfl, rfl⟩

/-- Whatever is computed, a visit leaves an element on the screen or off it, and writes its text
only if needed. -/
lemma visited_keeps (element : Element) (c : Composition) (tracked : Option Value)
    (live : LiveElement) :
    (visited element c tracked live).1.mounted = live.mounted ∧
      (visited element c tracked live).1.textWrites =
        live.textWrites + if c.dynamic && needsText element c live then 1 else 0 := by
  rw [visited]
  cases c.dynamic with
  | true => simpa using broughtInLine_keeps element c tracked live
  | false => simp

end LiveElement

namespace Session

open LiveElement

variable {element : Element} {id : String} {s s' t t' : Session}

/-- The animation that is tracked of an element. -/
def tracked (s : Session) (id : String) : Option Value :=
  Fields.get? s.state.animations id

/-- Showing a computed animation looks at nothing else than the element and the animation that is
tracked of it. -/
lemma applyAnimation_local {c : Composition} {desired : Value}
    (hdesired : Fields.get? c.computed.style "animation" = some desired) (live : LiveElement)
    (s : Session) :
    let r := withAnimation c (s.tracked id) live
    (s.applyAnimation id desired live).1 = r.1 ∧
      (s.applyAnimation id desired live).2.document.element? id = some r.2.1 ∧
      (s.applyAnimation id desired live).2.tracked id = r.2.2 := by
  intro r
  have hshown (live : LiveElement) (s : Session) :
      (s.put id live).document.element? id = some live :=
    (Document.element?_put ..).trans (if_pos rfl)
  have hfound : (s.tracked id).getD .null = Fields.get s.state.animations id := rfl
  unfold r
  rw [withAnimation, applyAnimation, hdesired, hfound]
  dsimp only
  split_ifs
  · exact ⟨rfl, hshown live s, rfl⟩
  have htracked : Fields.get? (Fields.put id desired s.state.animations) id = some desired := by
    rw [Fields.get?_put, if_pos rfl]
  rcases live.animate desired with fault | live' <;> exact ⟨rfl, hshown _ _, htracked⟩

/-- **Bringing an element in line looks at nothing else** than the element, its composition and the
animation that is tracked of it. -/
lemma apply_local (element : Element) (live : LiveElement) (c : Composition) (s : Session) :
    let line := broughtInLine element c (s.tracked element.id) live
    (s.apply element live c).1 = line.1 ∧
      (s.apply element live c).2.document.element? element.id = some line.2.1 ∧
      (s.apply element live c).2.tracked element.id = line.2.2 := by
  intro line
  have hshown (live : LiveElement) : (s.put element.id live).document.element? element.id =
      some live := (Document.element?_put ..).trans (if_pos rfl)
  unfold line
  rw [broughtInLine, apply, ← withText]
  rcases (withText element c live).applyStyles c.computed.style followedKeys with
    ⟨_ | fault, shown⟩
  · rcases hdesired : Fields.get? c.computed.style "animation" with _ | desired
    · dsimp only
      rw [withAnimation, hdesired]
      exact ⟨rfl, hshown shown, rfl⟩
    · exact applyAnimation_local hdesired shown s
  · exact ⟨rfl, hshown shown, rfl⟩

/-! ## Mounting -/

/-- Adopting the animation of an element tracks the one that mounting tracks of it, if any. -/
lemma get?_adopt (document : Document) (state : LiveState) (element : Element) (id : String) :
    Fields.get? (LiveState.adopt document state element).animations id =
      if element.id = id then
        ((document.element? id).bind adopted).or (Fields.get? state.animations id)
      else Fields.get? state.animations id := by
  rw [LiveState.adopt]
  by_cases hid : element.id = id
  · subst hid
    rw [if_pos rfl]
    rcases document.element? element.id with _ | live
    · rfl
    · simp only [Option.bind_some, adopted]
      split_ifs
      · rw [Fields.get?_put, if_pos rfl, Option.some_or]
      · rw [Option.none_or]
  · rw [if_neg hid]
    rcases document.element? element.id with _ | live
    · rfl
    · dsimp only
      split_ifs
      · rw [Fields.get?_put, if_neg hid]
      · rfl

/-- **Mounting looks at each element by itself**: of an element of the design, the animation that it
plays is tracked. -/
lemma tracked_mount (s : Session) (id : String) :
    s.mount.tracked id =
      if id ∈ s.project.elements.map (·.id) then
        ((s.document.element? id).bind adopted).or (s.tracked id)
      else s.tracked id := by
  change Fields.get? (s.project.elements.foldl (LiveState.adopt s.document) s.state).animations id =
    if _ then _ else Fields.get? s.state.animations id
  rw [tracked]
  generalize s.state = state
  induction s.project.elements generalizing state with
  | nil => rfl
  | cons element rest ih =>
    rw [List.foldl_cons, ih, get?_adopt]
    by_cases hid : element.id = id
    · subst hid
      rcases (s.document.element? element.id).bind adopted with _ | a <;> simp
    · simp [hid, Ne.symm hid]

/-- The first tick mounts the elements, later ones do not. -/
lemma tracked_setTime (s : Session) (id : String) :
    s.setTime.tracked id = if s.start.isNone then s.mount.tracked id else s.tracked id := by
  by_cases hstart : s.start.isNone
  · simp only [setTime, hstart, if_true]
    rfl
  · simp only [setTime, hstart, Bool.false_eq_true, if_false]
    rfl

/-! ## Visits -/

/-- Whether an element with the given id is on the screen. -/
def isMounted (s : Session) (id : String) : Bool :=
  (s.document.element? id).any (·.mounted)

lemma mounts_iff : s.Mounts element ↔ s.isMounted element.id = true := by
  rw [Mounts, isMounted, Option.any_eq_true]

/-- **All that a visit does to its element**: nothing, if it is not on the screen; else it is
composed, its triggers are those that the composition leaves, and it is brought in line if it has
graphs. -/
lemma visit_shows (h : s.visit element = (none, t)) :
    ¬s.Mounts element ∧ t = s ∨
    ∃ live c p, s.document.element? element.id = some live ∧ live.mounted = true ∧
      Composition.compose (s.setting element) (s.progress element) = (.ok c, p) ∧
      t.state.triggersOf element.id = p.triggers ∧
      t.document.element? element.id = some (visited element c (s.tracked element.id) live).1 ∧
      t.tracked element.id = (visited element c (s.tracked element.id) live).2 := by
  rcases visit_ok h with hnone | ⟨live, c, p, hlive, hmounted, hcompose, hend⟩
  · exact .inl hnone
  refine .inr ⟨live, c, p, hlive, hmounted, hcompose, ?_⟩
  have htriggers : (s.absorb element.id p).state.triggersOf element.id = p.triggers := by
    rw [LiveState.triggersOf, absorb, Fields.get?_put, if_pos rfl]
    rfl
  rw [visited]
  split_ifs at hend ⊢ with hdynamic
  · obtain ⟨-, hshown, htracked⟩ := apply_local element live c (s.absorb element.id p)
    obtain ⟨_, _, -, hframe⟩ := apply_frame element live c (s.absorb element.id p)
    rw [hend] at hshown htracked hframe
    refine ⟨?_, hshown, htracked⟩
    rw [← htriggers, show t = _ from hframe]
    rfl
  · cases hend
    exact ⟨htriggers, hlive, rfl⟩

/-- A visit of a shown element hands over what its composition does. -/
lemma outlet_visit (h : s.isMounted element.id = true) :
    (s.visit element).2.outlet =
      (Composition.compose (s.setting element) (s.progress element)).2.outlet := by
  obtain ⟨live, hlive, hmounted⟩ := mounts_iff.2 h
  rw [visit, hlive]
  simp only [hmounted, Bool.not_true, Bool.false_eq_true, if_false]
  rcases Composition.compose (s.setting element) (s.progress element) with ⟨fault | c, p⟩
  · rfl
  dsimp only
  split_ifs
  · obtain ⟨_, _, -, hframe⟩ := apply_frame element live c (s.absorb element.id p)
    exact congrArg outlet hframe
  · rfl

/-- What the graphs of an element fire when its turn comes, in order, also those of a graph that
ends in a fault. -/
def posts (s : Session) (element : Element) : List Event :=
  match element.graphs s.project with
  | .ok graphs =>
    if s.isMounted element.id then
      (Composition.posted (s.setting element) graphs (s.progress element)).map
        (Event.stamp (.str element.id))
    else []
  | .error _ => []

/-- **A visit delivers what the graphs of its element fire**, or lets it wait, also if it ends in a
fault. -/
lemma visit_posts (hs : s.dispatcher.strict = false) (element : Element) :
    Outlet.Takes (s.posts element) s.outlet (s.visit element).2.outlet := by
  cases hmounted : s.isMounted element.id with
  | false =>
    have hnone : s.posts element = [] := by
      rw [posts, hmounted]
      split <;> rfl
    have hstays : (s.visit element).2 = s := by
      rcases hlive : s.document.element? element.id with _ | live
      · simp [visit, hlive]
      · simp [visit, hlive, show live.mounted = false by simpa [isMounted, hlive] using hmounted]
    rw [hnone, hstays]
    exact .refl _
  | true =>
    have hsetting : (s.setting element).element.graphs (s.setting element).project =
        element.graphs s.project := rfl
    rw [outlet_visit hmounted, Composition.compose, hsetting, posts, hmounted]
    rcases element.graphs s.project with fault | graphs
    · exact .refl _
    · have hpost : (s.setting element).post = Outlet.post element.id := rfl
      have htakes :=
        Composition.posted_take (p := s.progress element) hpost hs graphs Composition.bare
      dsimp only
      rcases hall : Composition.evaluateAll (s.setting element) graphs Composition.bare
        (s.progress element) with ⟨fault | computed, q⟩ <;>
      · rw [hall] at htakes
        exact htakes

/-- What is fired in a visit that returns is what the evaluations of the element fire. -/
lemma firedBy_eq_posts (h : s.visit element = (none, t)) : s.firedBy element = s.posts element := by
  rcases visit_ok h with ⟨hnot, -⟩ | ⟨live, c, p, hlive, hmounted, hcompose, -⟩
  · rw [firedBy, turn_eq_nil hnot, posts, Bool.eq_false_iff.2 (mt mounts_iff.2 hnot)]
    split <;> rfl
  · obtain ⟨graphs, computed, hgraphs, hall, -⟩ := Composition.evaluateAll_of_compose hcompose
    have hgraphs : element.graphs s.project = .ok graphs := hgraphs
    have hshown : s.isMounted element.id = true := mounts_iff.1 ⟨live, hlive, hmounted⟩
    rw [firedBy, turn_eq hlive hmounted hgraphs, Composition.fired_calls hall, posts, hgraphs,
      hshown]
    rfl

/-! ## Sessions that agree -/

/-- Two sessions agree on what the composition of an element depends on: the design, what its
graphs see of the outside, its triggers, and whether it is on the screen. -/
structure ComposesAlike (id : String) (s s' : Session) : Prop where
  project : s'.project = s.project
  context : s'.state.context id = s.state.context id
  triggers : s'.state.triggersOf id = s.state.triggersOf id
  mounted : s'.isMounted id = s.isMounted id

/-- Two sessions agree on how an element shows and on the animation that is tracked of it. -/
structure LooksAlike (id : String) (s s' : Session) : Prop where
  live : s'.document.element? id = s.document.element? id
  tracked : s'.tracked id = s.tracked id

lemma ComposesAlike.symm (h : ComposesAlike id s s') : ComposesAlike id s' s :=
  ⟨h.project.symm, h.context.symm, h.triggers.symm, h.mounted.symm⟩

lemma ComposesAlike.trans (h : ComposesAlike id s s') (h' : ComposesAlike id s' t) :
    ComposesAlike id s t :=
  ⟨h'.project.trans h.project, h'.context.trans h.context, h'.triggers.trans h.triggers,
    h'.mounted.trans h.mounted⟩

lemma LooksAlike.symm (h : LooksAlike id s s') : LooksAlike id s' s :=
  ⟨h.live.symm, h.tracked.symm⟩

lemma LooksAlike.trans (h : LooksAlike id s s') (h' : LooksAlike id s' t) : LooksAlike id s t :=
  ⟨h'.live.trans h.live, h'.tracked.trans h.tracked⟩

/-- What is the same for an element is composed alike. -/
lemma SameFor.composesAlike (h : SameFor id s s') : ComposesAlike id s s' where
  project := h.project
  context := h.context
  triggers := by rw [LiveState.triggersOf, LiveState.triggersOf, h.triggers]
  mounted := by rw [isMounted, isMounted, h.document]

/-- What is the same for an element looks alike. -/
lemma SameFor.looksAlike (h : SameFor id s s') : LooksAlike id s s' :=
  ⟨h.document, h.animations⟩

section Agreement

variable (hs : s.dispatcher.strict = false) (hs' : s'.dispatcher.strict = false)
  (hsteady : element.IsSteady s.project)

include hs hs' hsteady

/-- **Sessions that agree compose an element alike**: to the same composition or the same fault,
and to the same triggers. -/
lemma ComposesAlike.composition (h : ComposesAlike element.id s s') :
    (Composition.compose (s'.setting element) (s'.progress element)).1 =
        (Composition.compose (s.setting element) (s.progress element)).1 ∧
      (Composition.compose (s'.setting element) (s'.progress element)).2.triggers =
        (Composition.compose (s.setting element) (s.progress element)).2.triggers := by
  refine Composition.compose_alike (Composition.welcomes_of_post rfl)
    (Composition.welcomes_of_post rfl) hsteady hs hs' ?_ ?_
  · simp only [Composition.Setting.muted, setting, h.project, h.context]
  · simp only [Composition.Progress.muted, progress, h.triggers]

/-- **Sessions that agree fire the same for an element.** -/
lemma ComposesAlike.posts (h : ComposesAlike element.id s s') :
    s'.posts element = s.posts element := by
  rw [Session.posts, Session.posts, h.project, h.mounted]
  rcases hgraphs : element.graphs s.project with fault | graphs
  · rfl
  · have hsame : Composition.posted (s'.setting element) graphs (s'.progress element) =
        Composition.posted (s.setting element) graphs (s.progress element) := by
      refine Composition.posted_alike (Composition.welcomes_of_post rfl)
        (Composition.welcomes_of_post rfl) hs hs' ?_ ?_ (hsteady graphs hgraphs)
      · simp only [Composition.Setting.muted, setting, h.project, h.context]
      · simp only [Composition.Progress.muted, progress, h.triggers]
    simp only [hsame]

variable (hv : s.visit element = (none, t)) (hv' : s'.visit element = (none, t'))

include hv hv'

/-- What a visit does to its element in one session it does in the other: nothing, or the element
comes to show one composition and has the triggers that this leaves. -/
lemma ComposesAlike.visit_shows (h : ComposesAlike element.id s s') :
    t = s ∧ t' = s' ∨
    ∃ live live' c, s.document.element? element.id = some live ∧
      s'.document.element? element.id = some live' ∧ live.mounted = true ∧ live'.mounted = true ∧
      t'.state.triggersOf element.id = t.state.triggersOf element.id ∧
      t.document.element? element.id = some (visited element c (s.tracked element.id) live).1 ∧
      t.tracked element.id = (visited element c (s.tracked element.id) live).2 ∧
      t'.document.element? element.id =
        some (visited element c (s'.tracked element.id) live').1 ∧
      t'.tracked element.id = (visited element c (s'.tracked element.id) live').2 := by
  obtain ⟨hcomposition, htriggers⟩ := h.composition hs hs' hsteady
  have hmounts : s.Mounts element ↔ s'.Mounts element := by
    rw [mounts_iff, mounts_iff, h.mounted]
  rcases Session.visit_shows hv with ⟨hnot, heq⟩ |
    ⟨live, c, p, hlive, hmounted, hcompose, hp, hshown, htracked⟩ <;>
  rcases Session.visit_shows hv' with ⟨hnot', heq'⟩ |
    ⟨live', c', p', hlive', hmounted', hcompose', hp', hshown', htracked'⟩
  · exact .inl ⟨heq, heq'⟩
  · exact absurd (hmounts.2 ⟨live', hlive', hmounted'⟩) hnot
  · exact absurd (hmounts.1 ⟨live, hlive, hmounted⟩) hnot'
  · rw [hcompose, hcompose'] at hcomposition htriggers
    obtain rfl : c' = c := Except.ok.inj hcomposition
    exact .inr ⟨live, live', c', hlive, hlive', hmounted, hmounted',
      hp'.trans (htriggers.trans hp.symm), hshown, htracked, hshown', htracked'⟩

/-- **A visit leaves sessions in agreement**, on its element and on all others. -/
lemma ComposesAlike.visit (h : ComposesAlike element.id s s') (hid : ComposesAlike id s s') :
    ComposesAlike id t t' := by
  by_cases hne : id = element.id
  · subst hne
    obtain ⟨⟨_, _, _, _, _, _, hframe⟩, -⟩ := visit_frame hv
    obtain ⟨⟨_, _, _, _, _, _, hframe'⟩, -⟩ := visit_frame hv'
    have hproject : t'.project = t.project := by rw [hframe, hframe', h.project]
    have hcontext : t'.state.context element.id = t.state.context element.id := by
      rw [hframe, hframe']
      exact h.context
    rcases h.visit_shows hs hs' hsteady hv hv' with ⟨rfl, rfl⟩ |
      ⟨live, live', c, -, -, hmounted, hmounted', htriggers, hshown, -, hshown', -⟩
    · exact h
    · refine ⟨hproject, hcontext, htriggers, ?_⟩
      simp [isMounted, hshown, hshown', (visited_keeps ..).1, hmounted, hmounted']
  · have hfirst := ((visit_frame hv).2 id hne).composesAlike
    have hsecond := ((visit_frame hv').2 id hne).composesAlike
    exact hfirst.symm.trans (hid.trans hsecond)

/-- **A visit leaves sessions in agreement on how its element shows.** -/
lemma LooksAlike.visit (hlooks : LooksAlike element.id s s')
    (h : ComposesAlike element.id s s') : LooksAlike element.id t t' := by
  rcases h.visit_shows hs hs' hsteady hv hv' with ⟨rfl, rfl⟩ |
    ⟨live, live', c, hlive, hlive', -, -, -, hshown, htracked, hshown', htracked'⟩
  · exact hlooks
  · obtain rfl : live' = live := by
      rw [hlooks.live, hlive] at hlive'
      exact (Option.some.inj hlive').symm
    rw [hlooks.tracked] at hshown' htracked'
    exact ⟨hshown'.trans hshown.symm, htracked'.trans htracked.symm⟩

end Agreement

/-! ## The turn of an element -/

/-- **A pass over different elements comes to each of them once.** Until then and afterwards it
leaves the element alone. -/
lemma visitAll_turn {earlier later : List Element}
    (hids : ((earlier ++ element :: later).map (·.id)).Nodup)
    (h : visitAll (earlier ++ element :: later) s = (none, t)) :
    ∃ m n, visitAll earlier s = (none, m) ∧ m.visit element = (none, n) ∧
      visitAll later n = (none, t) ∧ SameFor element.id s m ∧ SameFor element.id n t := by
  obtain ⟨m, hearlier, hrest⟩ := visitAll_append h
  obtain ⟨n, hvisit, hlater⟩ := visitAll_cons hrest
  rw [List.map_append, List.map_cons, List.nodup_middle] at hids
  obtain ⟨hnew, -⟩ := List.nodup_cons.1 hids
  obtain ⟨hbefore, hafter⟩ := not_or.1 (mt List.mem_append.2 hnew)
  exact ⟨m, n, hearlier, hvisit, hlater, (visitAll_frame hearlier).2 _ hbefore,
    (visitAll_frame hlater).2 _ hafter⟩

/-- What is fired in a pass is what is fired in its first part, then what is fired in its second
one. -/
lemma firedIn_append {earlier : List Element} (later : List Element) {middle : Session}
    (h : visitAll earlier s = (none, middle)) :
    firedIn (earlier ++ later) s = firedIn earlier s ++ firedIn later middle := by
  induction earlier generalizing s with
  | nil =>
    cases h
    rfl
  | cons element rest ih =>
    obtain ⟨s₁, hvisit, hrest⟩ := visitAll_cons h
    rw [List.cons_append, firedIn, firedIn, hvisit, ih hrest, List.append_assoc]

/-- Elements with other ids fire nothing that names the element. -/
lemma filter_firedIn_of_not_mem {elements : List Element} (h : id ∉ elements.map (·.id)) :
    (firedIn elements s).filter (Event.isOf id) = [] := by
  refine List.filter_eq_nil_iff.2 fun event hevent => ?_
  obtain ⟨element, helement, node, graph, action, rfl, -⟩ := exists_of_mem_firedIn hevent
  rw [Event.isOf_ofAction, decide_eq_true_eq]
  rintro rfl
  exact h (List.mem_map_of_mem helement)

/-- What an element fires names it. -/
lemma filter_firedBy (s : Session) (element : Element) :
    (s.firedBy element).filter (Event.isOf element.id) = s.firedBy element := by
  refine List.filter_eq_self.2 fun event hevent => ?_
  have hsingle : event ∈ firedIn [element] s := by simpa [firedIn] using hevent
  obtain ⟨other, hother, node, graph, action, rfl, -⟩ := exists_of_mem_firedIn hsingle
  obtain rfl := List.mem_singleton.1 hother
  simp [Event.isOf_ofAction]

/-- **Of all that is fired in a pass, what names an element is fired when its turn comes.** -/
lemma filter_firedIn_turn {earlier later : List Element} {m n : Session}
    (hids : ((earlier ++ element :: later).map (·.id)).Nodup)
    (hearlier : visitAll earlier s = (none, m)) (hvisit : m.visit element = (none, n)) :
    (firedIn (earlier ++ element :: later) s).filter (Event.isOf element.id) =
      m.posts element := by
  rw [List.map_append, List.map_cons, List.nodup_middle] at hids
  obtain ⟨hnew, -⟩ := List.nodup_cons.1 hids
  obtain ⟨hbefore, hafter⟩ := not_or.1 (mt List.mem_append.2 hnew)
  rw [firedIn_append _ hearlier, List.filter_append, filter_firedIn_of_not_mem hbefore,
    List.nil_append, firedIn, List.filter_append, filter_firedBy, hvisit,
    filter_firedIn_of_not_mem hafter, List.append_nil, firedBy_eq_posts hvisit]

end Session

end DesignGraph
