import DesignGraph.Proofs.Live.Tracking
/-!
# What a tick shows

A tick writes as little as it can. Still, at the end of its pass every visited element whose graphs
were evaluated shows exactly its composition, as if everything had been written. The text was
written, and the animation started, just where they had to be.

## Main definitions

* `DesignGraph.Session.Reached` — the sessions that inputs lead to without a fault.

## Main results

* `DesignGraph.Session.Reached.steady` — what they track shows.
* `DesignGraph.Session.tick_shows_compositions` — the elements follow their compositions in every
  tick.
-/

set_option relaxedAutoImplicit false
set_option autoImplicit false

namespace DesignGraph

open LiveElement

namespace Session

/-- The sessions of a project that inputs lead to from the start, whatever the document shows at
first, if no input ends in a fault and the animations that ticks compute are texts. Whole runs,
which tick many times, are left out. -/
inductive Reached (project : Project) : Session → Prop
  | new (document : Document) (dispatcher : Dispatcher) (samples : Nat → Float) (clock : Clock) :
    Reached project (new project document dispatcher samples clock)
  | receive {s s' : Session} {input : Input} (h : Reached project s) (hinput : input.isRun = false)
    (htext : input = .tick → HasTextAnimations s.shown s.setTime)
    (hr : s.receive input = (none, s')) : Reached project s'

section Pass

variable {project : Project} {s s' : Session}

/-- Every session that is reached is steady. -/
theorem Reached.steady (h : Reached project s) : Steady project s := by
  induction h with
  | new document dispatcher samples clock =>
    exact steady_new project document dispatcher samples clock
  | receive _ hinput htext hr ih => exact ih.receive hinput htext hr

/-- What an input without a fault leads to is reached. -/
lemma Reached.next (h : Reached project s) (input : Input) (hinput : input.isRun = false)
    (htext : input = .tick → HasTextAnimations s.shown s.setTime)
    (hr : (s.receive input).1 = none) : Reached project (s.receive input).2 :=
  .receive h hinput htext (Prod.ext hr rfl)

/-- Setting the time touches neither project nor document. -/
lemma setTime_keeps (s : Session) :
    s.setTime.project = s.project ∧ s.setTime.document = s.document := by
  obtain ⟨_, _, _, _, hset⟩ := setTime_frame s
  rw [hset]
  exact ⟨rfl, rfl⟩

/-- A pass over one element computes the animation of its composition. -/
lemma hasTextAnimations_singleton {element : Element} {c : Composition}
    (hc : s.composed element = some c) (htext : c.HasTextAnimation) :
    HasTextAnimations [element] s := by
  refine .cons (fun c' hc' => ?_) .nil
  cases hc.symm.trans hc'
  exact htext

/-- Computed animations that are texts in a pass are texts in both of its parts. -/
lemma HasTextAnimations.append {earlier later : List Element} {middle : Session}
    (h : HasTextAnimations (earlier ++ later) s) (hmiddle : visitAll earlier s = (none, middle)) :
    HasTextAnimations earlier s ∧ HasTextAnimations later middle := by
  induction earlier generalizing s with
  | nil =>
    cases hmiddle
    exact ⟨.nil, h⟩
  | cons element rest ih =>
    obtain _ | ⟨hfirst, hrest⟩ := h
    obtain ⟨s₁, hvisit, hall⟩ := visitAll_cons hmiddle
    rw [hvisit] at hrest
    obtain ⟨hearlier, hlater⟩ := ih hrest hall
    refine ⟨.cons hfirst ?_, hlater⟩
    rwa [hvisit]

/-- **In a pass every element follows its composition**, the one that it has when its turn comes, if
no element is visited twice.

**Proof sketch.** The pass is cut at the element. What comes before and after visits other elements
and leaves this one alone; its own visit lets it follow, since the session is steady. -/
theorem visitAll_follows {earlier later : List Element} {element : Element}
    (hs : Steady project s) (hids : ((earlier ++ element :: later).map (·.id)).Nodup)
    (htext : HasTextAnimations (earlier ++ element :: later) s)
    (h : visitAll (earlier ++ element :: later) s = (none, s')) {c : Composition}
    (hc : (visitAll earlier s).2.composed element = some c) (hdynamic : c.dynamic = true) :
    ∃ live live', s.document.element? element.id = some live ∧
      s'.document.element? element.id = some live' ∧
      Follows element c (Fields.get? s.state.animations element.id) live live' := by
  rw [List.map_append, List.map_cons, List.nodup_append, List.nodup_cons] at hids
  obtain ⟨-, ⟨hlaterIds, -⟩, hearlierIds⟩ := hids
  have hnot : element.id ∉ earlier.map (·.id) :=
    fun hmem => hearlierIds _ hmem _ List.mem_cons_self rfl
  obtain ⟨middle, hearlier, hrest⟩ := visitAll_append h
  obtain ⟨htextEarlier, htextRest⟩ := htext.append hearlier
  obtain _ | ⟨htextHere, -⟩ := htextRest
  have hmiddle : Steady project middle := hs.visitAll htextEarlier hearlier
  have hbefore : SameFor element.id s middle := (visitAll_frame hearlier).2 _ hnot
  rw [hearlier] at hc
  obtain ⟨s₁, hvisit, hlater⟩ := visitAll_cons hrest
  obtain ⟨-, hvisits⟩ := visit_spec hmiddle htextHere hvisit
  obtain ⟨live, live', hlive, hlive', hfollows⟩ := hvisits.follows c hc hdynamic
  have hafter : SameFor element.id s₁ s' := (visitAll_frame hlater).2 _ hlaterIds
  rw [hbefore.document] at hlive
  rw [hbefore.animations] at hfollows
  exact ⟨live, live', hlive, hafter.document.trans hlive', hfollows⟩

/-- **Writing only what differs comes to the same as writing everything.** In every tick of a
session that inputs lead to, at the end of the pass, each visited element with graphs shows exactly
the composition that it has when its turn comes. Its text was written once if it differed, else not
at all, and the layout was forced once if an animation other than none was computed that was not the
tracked one, else not at all. -/
theorem tick_shows_compositions (hids : (project.elements.map (·.id)).Nodup)
    (h : Reached project s) (htext : HasTextAnimations s.shown s.setTime)
    (ht : s.tick.1 = none) :
    ∃ passed, visitAll s.shown s.setTime = (none, passed) ∧
      ∀ earlier element later, s.shown = earlier ++ element :: later →
        ∀ c, (visitAll earlier s.setTime).2.composed element = some c → c.dynamic = true →
          ∃ live live', s.document.element? element.id = some live ∧
            passed.document.element? element.id = some live' ∧
            Follows element c (Fields.get? s.setTime.state.animations element.id) live live' := by
  obtain ⟨passed, hpass⟩ : ∃ passed, visitAll s.shown s.setTime = (none, passed) := by
    rcases hall : visitAll s.shown s.setTime with ⟨_ | fault, passed⟩
    · exact ⟨passed, rfl⟩
    · rw [tick, ← shown, hall] at ht
      cases ht
  refine ⟨passed, hpass, fun earlier element later hshown c hc hdynamic => ?_⟩
  obtain ⟨hproject, hdocument⟩ := setTime_keeps s
  have hnodup : (s.shown.map (·.id)).Nodup := by
    rw [shown, hproject, h.steady.project]
    exact hids.sublist (List.filter_sublist.map _)
  rw [hshown] at hpass htext hnodup
  have hfollows := visitAll_follows h.steady.setTime hnodup htext hpass hc hdynamic
  rwa [hdocument] at hfollows

end Pass

/-! ## A lamp -/

/-- A badge that is attached to a script: with the pointer over it, it spins and says so. -/
def lampElement : Element where
  id := "lamp"
  kind := "BADGE"
  pageId := some "home"
  parentId := none
  x := .int 0
  y := .int 0
  width := .int 1
  height := .int 1
  style := []
  content := none
  componentId := none
  ownGraph := none
  isDetached := false
  scripts := ["glow"]
  overrides := []
  src := none
  alt := none
  videoOptions := []

/-- The design of the lamp alone. -/
def lamp : Project where
  elements := [lampElement]
  pages := [⟨"home", .null⟩]
  width := .int 1
  height := .int 1
  components := []
  scripts := [
    ⟨[⟨"over", "INTERACTION_HOVER", []⟩, ⟨"text", "CONCAT", []⟩,
        ⟨"spin", "ANIMATION", [("value", .str "spin")]⟩, ⟨"out", "OUTPUT", []⟩],
      [⟨"over", "text", "in-a"⟩, ⟨"over", "spin", "in-trigger"⟩, ⟨"text", "out", "in-content"⟩,
        ⟨"spin", "out", "in-style"⟩], .str "glow", .null⟩]

/-- The lamp as it is at first. -/
def lampDocument : Document :=
  ⟨[("lamp", ⟨"", [("animation", .str "none")], true, 0, 0⟩)], [.str "home"]⟩

/-- The lamp's session at the start. -/
def lampStart : Session :=
  new lamp lampDocument (.new [] false) (fun _ => 0.5) ⟨0, 1, []⟩

/-- The lamp after a tick, with the pointer over it. -/
def lampOver : Session :=
  ((lampStart.receive .tick).2.receive (.pointerEnter (.str "lamp"))).2

/-- In the tick after the pointer came over it, the lamp comes to spin and to say so, with one write
and one restart. -/
theorem lamp_shows_composition :
    Document.ofProject lamp = .ok lampDocument ∧ Reached lamp lampOver ∧
      lampOver.tick.1 = none ∧
      ∃ passed live, visitAll lampOver.shown lampOver.setTime = (none, passed) ∧
        passed.document.element? "lamp" = some live ∧ live.text = "true" ∧
        Fields.get? live.style "animation" =
          some (.str "spin 1s ease-in-out 0s infinite both") ∧
        live.textWrites = 1 ∧ live.reflows = 1 := by
  let still : Composition := .ofComputed lampElement ⟨[("animation", .str "none")], some ""⟩ true
  let spinning : Composition := .ofComputed lampElement
    ⟨[("animation", .str "spin 1s ease-in-out 0s infinite both")], some "true"⟩ true
  have hstartShown : lampStart.shown = [lampElement] := by decide +kernel
  have hstill : lampStart.setTime.composed lampElement = some still := by decide +kernel
  have hfirst : (lampStart.receive .tick).1 = none := by decide +kernel
  have htextStart : HasTextAnimations lampStart.shown lampStart.setTime := by
    rw [hstartShown]
    exact hasTextAnimations_singleton hstill fun v hv => ⟨_, (Option.some.inj hv).symm⟩
  have hstart : Reached lamp lampStart := .new _ _ _ _
  have hreached : Reached lamp lampOver := by
    have hticked := hstart.next .tick rfl (fun _ => htextStart) hfirst
    unfold lampOver
    exact hticked.next (.pointerEnter (.str "lamp")) rfl nofun (by decide +kernel)
  have hshown : lampOver.shown = [lampElement] := by decide +kernel
  have hspinning : lampOver.setTime.composed lampElement = some spinning := by decide +kernel
  have hsecond : lampOver.tick.1 = none := by decide +kernel
  have htext : HasTextAnimations lampOver.shown lampOver.setTime := by
    rw [hshown]
    exact hasTextAnimations_singleton hspinning fun v hv => ⟨_, (Option.some.inj hv).symm⟩
  obtain ⟨passed, hpass, hfollows⟩ :=
    tick_shows_compositions (by decide) hreached htext hsecond
  obtain ⟨live, live', hlive, hlive', hfollows⟩ :=
    hfollows [] lampElement [] hshown spinning hspinning rfl
  have hbefore : lampOver.document.element? "lamp" =
      some ⟨"", [("animation", .str "none")], true, 0, 0⟩ := by decide +kernel
  cases hlive.symm.trans hbefore
  have htracked : Fields.get? lampOver.setTime.state.animations lampElement.id =
      some (.str "none") := by decide +kernel
  have hanimation := hfollows.shows.animation "spin 1s ease-in-out 0s infinite both" rfl
  rw [if_neg (by decide)] at hanimation
  have hneedsText : needsText lampElement spinning ⟨"", [("animation", .str "none")], true, 0, 0⟩ =
      true := by decide
  have hneedsRestart : needsRestart (some (.str "none")) spinning = true := by decide
  have hdocument : Document.ofProject lamp = .ok lampDocument := by decide +kernel
  have htextShown : live'.text = "true" := hfollows.shows.text rfl (by decide)
  refine ⟨hdocument, hreached, hsecond, passed, live', hpass, hlive', htextShown, hanimation,
    ?_, ?_⟩
  · rw [hfollows.textWrites, if_pos hneedsText]
  · rw [hfollows.reflows, htracked, if_pos hneedsRestart]

end Session

end DesignGraph
