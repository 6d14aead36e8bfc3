import DesignGraph.Proofs.Live.Isolation
import DesignGraph.Proofs.Live.Tracking
/-!
# Elements of other pages

A tick passes over the elements of the page that is shown at its start. An element of any other page
is left alone by the pass, by the alerts that are delivered after it and by the change of page that
may follow: of that one it feels only that its animation plays from its start when it comes to be
shown.

What can still be heard of such an element are alerts that a tick has left waiting when it ended in
a fault, before the page was changed.

## Main definitions

* `DesignGraph.LiveState.pointer` — what is stored of the hover and the click of an element.
* `DesignGraph.LiveElement.replayed` — an element whose animation plays from its start.
* `DesignGraph.Session.Spares` — an element of another page is left alone.

## Main results

* `DesignGraph.Session.element?_navigateTo` — how elements show after a change of page.
* `DesignGraph.Session.tick_spares_other_pages` — a tick leaves elements of other pages alone.
-/

set_option relaxedAutoImplicit false
set_option autoImplicit false

namespace DesignGraph

/-! ## Hovers and clicks -/

/-- The key that addresses the entry of a text is that text. -/
lemma Value.sameKey_str {text : String} {key : Value} :
    sameKey (.str text) key = true ↔ key = .str text := by
  rw [eq_comm]
  cases key with
  | str other => simpa [sameKey, equals, alike] using eq_comm
  | _ => simp [sameKey, equals, alike]

/-- The text that addresses the entry of a key is that key. -/
lemma Value.sameKey_str_right {text : String} {key : Value} :
    sameKey key (.str text) = true ↔ key = .str text := by
  cases key <;> simp [sameKey, equals, alike]

/-- What is stored under a text is what was last stored under it. -/
lemma Table.get?_put_str {α : Type} (table : Table α) (key : Value) (a : α) (text : String) :
    (table.put key a).get? (.str text) =
      if key = .str text then some a else table.get? (.str text) := by
  induction table with
  | nil => simp only [put, get?, Value.sameKey_str_right]
  | cons first rest ih =>
    obtain ⟨k, b⟩ := first
    rw [put]
    split_ifs with hsame htext htext
    · subst htext
      rw [get?, if_pos hsame]
    · -- a key that addresses the entry of a text is that text
      have hother : ¬k.sameKey (.str text) = true := by
        rw [Value.sameKey_str_right]
        rintro rfl
        exact htext (Value.sameKey_str.1 hsame)
      rw [get?, get?, if_neg hother, if_neg hother]
    · subst htext
      rw [get?, if_neg hsame, ih, if_pos rfl]
    · rw [get?, get?, ih, if_neg htext]

namespace LiveState

/-- What is stored of the hover and the click of an element. -/
def pointer (state : LiveState) (id : String) : Option Bool × Option Bool :=
  (state.hovers.get? (.str id), state.clicks.get? (.str id))

/-- Forgetting elements turns hover and click off for them and for no others. -/
lemma pointer_forget (elements : List Element) (state : LiveState) (id : String) :
    (elements.foldl (fun state element => state.forget element.id) state).pointer id =
      if id ∈ elements.map (·.id) then (some false, some false) else state.pointer id := by
  induction elements generalizing state with
  | nil => rfl
  | cons element rest ih =>
    have hforget : (state.forget element.id).pointer id =
        if element.id = id then (some false, some false) else state.pointer id := by
      simp only [pointer, forget, Table.get?_put_str, Value.str.injEq]
      split_ifs <;> rfl
    rw [List.foldl_cons, ih, hforget]
    by_cases hid : element.id = id
    · simp [hid]
    · simp [hid, Ne.symm hid]

end LiveState

/-! ## Animations from their start -/

namespace LiveElement

/-- An element whose animation, if it has one, plays from its start: the layout was forced. -/
def replayed (live : LiveElement) : LiveElement :=
  { live with reflows := live.reflows + if plays live.animation then 1 else 0 }

/-- To play the animation that shows only forces the layout. -/
lemma play_animation {live : LiveElement} (h : plays live.animation = true) :
    live.play live.animation = live.replayed := by
  rw [replayed, if_pos h, play, setStyle, Fields.put_of_get? (get?_of_plays h)]

/-- Without an animation there is nothing to play. -/
lemma replayed_of_not_plays {live : LiveElement} (h : ¬plays live.animation = true) :
    live.replayed = live := by
  rw [replayed, if_neg h]
  rfl

end LiveElement

namespace Session

open LiveElement

variable {project : Project} {processors : List Processor} {element : Element} {id : String}
  {s t : Session}

/-- Restarting the animation of an element leaves the others as they show. -/
lemma element?_restart (element : Element) (s : Session) (id : String) :
    (s.restart element).document.element? id =
      if element.id = id then (s.document.element? id).map replayed
      else s.document.element? id := by
  rw [restart]
  rcases hlive : s.document.element? element.id with _ | live
  · split_ifs with hid
    · rw [← hid, hlive]
      rfl
    · rfl
  dsimp only
  split_ifs with hplays hid hid
  · rw [← hid, hlive, Document.element?_put, if_pos rfl, play_animation hplays]
    rfl
  · rw [Document.element?_put, if_neg hid]
  · rw [← hid, hlive, Option.map_some, replayed_of_not_plays hplays]
  · rfl

/-- Restarting the animations of elements with different ids restarts each of them once. -/
lemma element?_restarts {elements : List Element} (hids : (elements.map (·.id)).Nodup)
    (s : Session) (id : String) :
    (elements.foldl restart s).document.element? id =
      if id ∈ elements.map (·.id) then (s.document.element? id).map replayed
      else s.document.element? id := by
  induction elements generalizing s with
  | nil => rfl
  | cons element rest ih =>
    obtain ⟨hnew, hrest⟩ := List.nodup_cons.1 hids
    rw [List.foldl_cons, ih hrest, element?_restart]
    by_cases hid : element.id = id
    · subst hid
      simp [hnew]
    · simp [hid, Ne.symm hid]

/-- Leaving a page touches no element. -/
lemma elements_leavePage (s : Session) : s.leavePage.document.elements = s.document.elements := by
  rw [leavePage]
  split_ifs <;> rfl

/-- **How elements show after a change of page**: those of the new page play their animations from
the start, and all others show as before. -/
lemma element?_navigateTo {page : Value} (hids : (s.project.elements.map (·.id)).Nodup)
    (hequals : s.state.page.equals page = false) (h : s.navigateTo page = (none, t)) (id : String) :
    t.document.element? id =
      if id ∈ (s.project.elementsOn page).map (·.id) then (s.document.element? id).map replayed
      else s.document.element? id := by
  have hdistinct : ((s.project.elementsOn page).map (·.id)).Nodup :=
    hids.sublist (List.filter_sublist.map _)
  rw [navigateTo] at h
  dsimp only at h
  rw [hequals] at h
  rcases hshow : s.leavePage.document.showPage page with fault | document <;> rw [hshow] at h
  · cases h
  · have hbefore : document.element? id = s.document.element? id := by
      rw [Document.element?, Document.elements_of_showPage hshow, elements_leavePage]
      rfl
    obtain rfl := congrArg Prod.snd h
    change (((s.project.elementsOn page).foldl restart _).document.element? id) = _
    rw [element?_restarts hdistinct]
    simp only [hbefore]

/-! ## Ticks -/

/-- Of the elements of a design with different ids, those of a page are told by their ids. -/
lemma mem_ids_elementsOn (hids : (project.elements.map (·.id)).Nodup)
    (helement : element ∈ project.elements) {page : Value} :
    element.id ∈ (project.elementsOn page).map (·.id) ↔ Value.ofText? element.pageId = page := by
  constructor
  · intro hmem
    obtain ⟨other, hother, hid⟩ := List.mem_map.1 hmem
    obtain ⟨hin, hpage⟩ := List.mem_filter.1 hother
    obtain rfl := List.inj_on_of_nodup_map hids hin helement hid
    exact of_decide_eq_true hpage
  · intro hpage
    exact List.mem_map_of_mem (List.mem_filter.2 ⟨helement, decide_eq_true hpage⟩)

/-- From `s` to `t`, an element is left alone, but for the animation that it plays from its start
when it comes to be shown. -/
structure Spares (element : Element) (s t : Session) : Prop where
  triggers : Fields.get? t.state.triggers element.id = Fields.get? s.state.triggers element.id
  pointer : t.state.pointer element.id = s.state.pointer element.id
  document : t.document.element? element.id =
    if t.state.page = Value.ofText? element.pageId then
      (s.document.element? element.id).map replayed
    else s.document.element? element.id

/-- A change of page spares the elements that are not on the page that is left. -/
lemma navigateTo_spares {page : Value} (hids : (s.project.elements.map (·.id)).Nodup)
    (helement : element ∈ s.project.elements)
    (helsewhere : Value.ofText? element.pageId ≠ s.state.page)
    (h : s.navigateTo page = (none, t)) :
    t.state.pointer element.id = s.state.pointer element.id ∧
      t.document.element? element.id =
        if t.state.page = Value.ofText? element.pageId then
          (s.document.element? element.id).map replayed
        else s.document.element? element.id := by
  cases hequals : s.state.page.equals page with
  | true =>
    rw [navigateTo, if_pos hequals] at h
    cases h
    exact ⟨rfl, (if_neg helsewhere.symm).symm⟩
  | false =>
    have hshown := element?_navigateTo hids hequals h element.id
    obtain ⟨_, _, rfl⟩ := navigateTo_frame hequals h
    refine ⟨?_, ?_⟩
    · have hleft := LiveState.pointer_forget (s.project.elementsOn s.state.page) s.state element.id
      rwa [if_neg (mt (mem_ids_elementsOn hids helement).1 helsewhere)] at hleft
    · rw [hshown]
      simp only [mem_ids_elementsOn hids helement, eq_comm]

/-- A tick spares the elements that are not on the page that is shown at its start. -/
lemma tick_spares (hids : (s.project.elements.map (·.id)).Nodup)
    (helement : element ∈ s.project.elements)
    (helsewhere : Value.ofText? element.pageId ≠ s.state.page) (ht : s.tick = (none, t)) :
    Spares element s t := by
  have hnot : element.id ∉ (s.project.elementsOn s.state.page).map (·.id) := by
    rwa [mem_ids_elementsOn hids helement]
  obtain ⟨passed, count, dispatcher, hall, -, hfollow⟩ := tick_ok ht
  obtain ⟨_, _, _, _, hset⟩ := setTime_frame s
  obtain ⟨⟨_, _, _, _, _, _, hpassed⟩, hothers⟩ := visitAll_frame hall
  rw [shown_eq] at hothers
  have hdocument : passed.document.element? element.id = s.document.element? element.id := by
    rw [(hothers element.id hnot).document, hset]
  have hpage : passed.state.page = s.state.page := by rw [hpassed, hset]
  have hproject : passed.project = s.project := by rw [hpassed, hset]
  have hpointer : passed.state.pointer element.id = s.state.pointer element.id := by
    rw [hpassed, hset]
    rfl
  suffices hspared : t.state.pointer element.id = passed.state.pointer element.id ∧
      t.document.element? element.id =
        if t.state.page = Value.ofText? element.pageId then
          (passed.document.element? element.id).map replayed
        else passed.document.element? element.id from
    ⟨triggers_tick ht hnot, hspared.1.trans hpointer, hdocument ▸ hspared.2⟩
  rw [← hpage] at helsewhere
  rw [followRequest] at hfollow
  split_ifs at hfollow
  · cases hfollow
    exact ⟨rfl, (if_neg helsewhere.symm).symm⟩
  · rw [← hproject] at hids helement
    exact navigateTo_spares (s := { passed with
      dispatcher := dispatcher, frame := passed.frame + 1, pendingPage := .null }) hids helement
      helsewhere hfollow

/-- **A tick leaves elements of other pages alone.** Whatever inputs a session of a design with
different ids got since its start, and whatever faults there were, let a tick return. An element
that was not on the page at its start is spared: its triggers, hover and click stay, and it shows as
before, save that its animation plays from its start if it comes to be shown. Nothing is fired of
it, and processors hear at most of its alerts that were left waiting; none were if there was no
fault. -/
theorem tick_spares_other_pages {document : Document} {samples : Nat → Float} {clock : Clock}
    {inputs : List Input} {faults : List (Option Fault)}
    (hids : (project.elements.map (·.id)).Nodup)
    (hs : receiveAll inputs (new project document (.new processors false) samples clock) =
      (faults, s)) (helement : element ∈ project.elements)
    (helsewhere : Value.ofText? element.pageId ≠ s.state.page) (ht : s.tick = (none, t)) :
    Spares element s t ∧ s.fired.filter (Event.isOf element.id) = [] ∧
      HearsOf processors element.id [] s t ∧
      ((∀ fault ∈ faults, fault = none) → s.dispatcher.pending = []) := by
  have hlenient := (isLenient_new project document processors samples clock).receiveAll inputs
  rw [hs] at hlenient
  have hnot : element.id ∉ s.shown.map (·.id) := by
    rwa [shown_eq, hlenient.project, mem_ids_elementsOn hids helement]
  have hsilent : s.fired.filter (Event.isOf element.id) = [] := filter_firedIn_of_not_mem hnot
  obtain ⟨hlaw, hpending⟩ := tick_orders_events hs ht
  have hhears := hlaw.hearsOf element.id
  rw [hsilent] at hhears
  rw [← hlenient.project] at hids helement
  exact ⟨tick_spares hids helement helsewhere ht, hsilent, hhears, hpending⟩

/-! ## A banner behind the door -/

/-- A badge on the page to which the door leads. It spins from the start. -/
def banner : Element :=
  { chimeElement [] with
    id := "banner", pageId := some "about", style := [("animation", .str "spin")] }

/-- The door with the banner. -/
def porch : Project :=
  { door with elements := [chimeElement ["door"], banner] }

/-- Door and banner as they are at first. -/
def porchDocument : Document :=
  ⟨[("chime", ⟨"", [], true, 0, 0⟩),
      ("banner", ⟨"", [("animation", .str "spin")], true, 0, 0⟩)], [.str "home"]⟩

/-- The session of door and banner after the given inputs. -/
def porchAfter (inputs : List Input) : Session :=
  (receiveAll inputs (new porch porchDocument (.new [.recorder] false) (fun _ => 0.5)
    ⟨0, 1, []⟩)).2

/-- The tick that leads through the door restarts the banner, over which the pointer stays. -/
theorem door_spares_banner :
    let s := porchAfter [.pointerEnter (.str "banner")]
    s.tick.1 = none ∧ s.tick.2.state.page = .str "about" ∧
      Spares banner s s.tick.2 ∧ HearsOf [.recorder] "banner" [] s s.tick.2 ∧
      s.tick.2.state.pointer "banner" = (some true, none) ∧
      s.tick.2.document.element? "banner" =
        some ⟨"", [("animation", .str "spin")], true, 0, 1⟩ := by
  intro s
  have hreturns : s.tick.1 = none := by decide +kernel
  have hpage : s.tick.2.state.page = .str "about" := by decide +kernel
  have hids : (porch.elements.map (·.id)).Nodup := by decide
  have hbanner : banner ∈ porch.elements := by decide
  have helsewhere : Value.ofText? banner.pageId ≠ s.state.page := by decide
  have hs : receiveAll [.pointerEnter (.str "banner")] (new porch porchDocument
      (.new [.recorder] false) (fun _ => 0.5) ⟨0, 1, []⟩) = ([none], s) := Prod.ext rfl rfl
  obtain ⟨hspares, -, hhears, -⟩ :=
    tick_spares_other_pages hids hs hbanner helsewhere (tick_of_returns hreturns)
  have hreplayed : (s.document.element? banner.id).map replayed =
      some ⟨"", [("animation", .str "spin")], true, 0, 1⟩ := by decide
  exact ⟨hreturns, hpage, hspares, hhears, hspares.pointer,
    (hspares.document.trans (if_pos hpage)).trans hreplayed⟩

/-- **What waits is heard from another page**: a tick can deliver an alert of an element that is not
on the page at its start, if a fault has left it waiting. -/
theorem fault_alert_crosses_pages :
    ¬∀ (project : Project) (processors : List Processor) (document : Document)
      (samples : Nat → Float) (clock : Clock) (inputs : List Input) (element : Element)
      (s t : Session), (project.elements.map (·.id)).Nodup →
      (receiveAll inputs (new project document (.new processors false) samples clock)).2 = s →
      element ∈ project.elements → Value.ofText? element.pageId ≠ s.state.page →
      s.tick = (none, t) → ∀ position < processors.length,
        (heard t.dispatcher.journal position).filter (Event.isOf element.id) =
          (heard s.dispatcher.journal position).filter (Event.isOf element.id) := by
  intro hall
  let inputs : List Input := [.pointerEnter (.str "fuse"), .tick, .navigateTo (.str "about")]
  let s := (receiveAll inputs fuseStart).2
  have hids : (fuse.elements.map (·.id)).Nodup := by decide +kernel
  have hbell : bell ∈ fuse.elements := List.mem_cons_self
  have helsewhere : Value.ofText? bell.pageId ≠ s.state.page := by decide +kernel
  have hreturns : s.tick.1 = none := by decide +kernel
  have hbefore : (heard s.dispatcher.journal 0).filter (Event.isOf bell.id) = [] := by
    decide +kernel
  have hafter : (heard s.tick.2.dispatcher.journal 0).filter (Event.isOf bell.id) =
      [.alert ⟨.str "ring", .str "ring", .str "bell"⟩ (.str "ding")] := by decide +kernel
  have hheard := hall fuse [.recorder] fuseDocument (fun _ => 0.5) ⟨0, 1, []⟩ inputs bell s s.tick.2
    hids rfl hbell helsewhere (tick_of_returns hreturns) 0 (by decide)
  rw [hbefore, hafter] at hheard
  cases hheard

end Session

end DesignGraph
