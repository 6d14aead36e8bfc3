import DesignGraph.Live.Session
import Mathlib.Tactic.Common
/-!
# Bringing an element in line

A tick does not write an element anew: it compares texts before it writes them, and an animation
with the one that is tracked instead of the one that is shown. As long as the tracked animation is
the one that shows, this comes to the same as writing everything.

## Main definitions

* `DesignGraph.LiveElement.shownAnimation` — the form in which an animation shows.
* `DesignGraph.LiveElement.Tracks` — the tracked animation is the one that shows.
* `DesignGraph.LiveElement.Shows` — an element shows a composition.
* `DesignGraph.LiveElement.Follows` — an element shows a composition, with as few writes as needed.

## Main results

* `DesignGraph.LiveElement.applyStyles_spec` — the written style entries are those computed.
* `DesignGraph.Session.apply_spec` — an element that is brought in line follows its composition.
-/

set_option relaxedAutoImplicit false
set_option autoImplicit false

namespace DesignGraph

/-- A text equals exactly itself. -/
lemma Value.equals_str {v : Value} {t : String} : v.equals (.str t) = true ↔ v = .str t := by
  cases v <;> simp [Value.equals, Value.alike]

/-- The computed animation of a composition is a text, if there is one. -/
def Composition.HasTextAnimation (c : Composition) : Prop :=
  ∀ v, Fields.get? c.computed.style "animation" = some v → ∃ t, v = .str t

namespace LiveElement

/-- The form in which an animation shows: one that does not play shows as none. -/
def shownAnimation (animation : Value) : Value :=
  if plays animation then animation else .str "none"

/-- The tracked animation of an element, if any, is the one that it shows. -/
def Tracks (tracked : Option Value) (live : LiveElement) : Prop :=
  ∀ a, tracked = some a → Fields.get? live.style "animation" = some (shownAnimation a)

/-- An element shows a composition: the content if its kind shows texts and there is a computed
one, and every followed style entry and the animation that are computed. -/
structure Shows (element : Element) (c : Composition) (live : LiveElement) : Prop where
  text : c.computed.content.isSome → element.kind?.any ElementKind.showsText → live.text = c.content
  style : ∀ key ∈ followedKeys, ∀ v, Fields.get? c.computed.style key = some v →
    ∃ shown, shownValue key v = .ok shown ∧ Fields.get? live.style key = some shown
  animation : ∀ t, Fields.get? c.computed.style "animation" = some (.str t) →
    Fields.get? live.style "animation" = some (.str (if t = "" ∨ t = "none" then "none" else t))

/-- Whether the text of an element has to be written. -/
def needsText (element : Element) (c : Composition) (live : LiveElement) : Bool :=
  c.computed.content.isSome && element.kind?.any ElementKind.showsText && live.text ≠ c.content

/-- Whether an animation has to be started: it is computed, not the tracked one, and not none. -/
def needsRestart (tracked : Option Value) (c : Composition) : Bool :=
  match Fields.get? c.computed.style "animation" with
  | none => false
  | some v => tracked ≠ some v && v ≠ .str "" && v ≠ .str "none"

/-- An element `live` has come to show a composition as `live'`, its text written and its layout
forced only where that was needed. -/
structure Follows (element : Element) (c : Composition) (tracked : Option Value)
    (live live' : LiveElement) : Prop where
  shows : Shows element c live'
  mounted : live'.mounted = live.mounted
  textWrites : live'.textWrites = live.textWrites + if needsText element c live then 1 else 0
  reflows : live'.reflows = live.reflows + if needsRestart tracked c then 1 else 0

/-! ## Texts and styles -/

/-- A style entry is written only where it stands. -/
lemma get?_setStyle (key key' : String) (v : Value) (live : LiveElement) :
    Fields.get? (live.setStyle key v).style key' =
      if key = key' then some v else Fields.get? live.style key' :=
  Fields.get?_put live.style key key' v

/-- **The written style entries are those computed**: among different keys, each one that is
computed shows its value, and all else stays.

**Proof sketch.** Induction on the keys. Entries that were written stay, since the keys that come
later are different. -/
lemma applyStyles_spec {computed : Fields} {keys : List String} (hkeys : keys.Nodup)
    {live live' : LiveElement} (h : applyStyles computed keys live = (none, live')) :
    (∀ key ∈ keys, ∀ v, Fields.get? computed key = some v →
      ∃ shown, shownValue key v = .ok shown ∧ Fields.get? live'.style key = some shown) ∧
    (∀ key ∉ keys, Fields.get? live'.style key = Fields.get? live.style key) ∧
    live' = { live with style := live'.style } := by
  induction keys generalizing live with
  | nil =>
    cases h
    exact ⟨nofun, fun _ _ => rfl, rfl⟩
  | cons key rest ih =>
    obtain ⟨hnew, hrest⟩ := List.nodup_cons.1 hkeys
    rw [applyStyles] at h
    rcases hv : Fields.get? computed key with _ | v
    · simp only [hv] at h
      obtain ⟨hwritten, hkept, heq⟩ := ih hrest h
      refine ⟨?_, fun other hother => hkept other fun hmem => hother (.tail _ hmem), heq⟩
      rintro other (_ | ⟨_, hmem⟩) v hv'
      · cases hv.symm.trans hv'
      · exact hwritten other hmem v hv'
    · simp only [hv] at h
      rcases hshown : shownValue key v with fault | shown
      · simp only [hshown] at h
        cases h
      · simp only [hshown] at h
        obtain ⟨hwritten, hkept, heq⟩ := ih hrest h
        refine ⟨?_, fun other hother => ?_, heq⟩
        · rintro other (_ | ⟨_, hmem⟩) v' hv'
          · cases hv.symm.trans hv'
            exact ⟨shown, hshown, by rw [hkept key hnew, get?_setStyle, if_pos rfl]⟩
          · exact hwritten other hmem v' hv'
        · have hne : key ≠ other := by
            rintro rfl
            exact hother List.mem_cons_self
          rw [hkept other fun hmem => hother (.tail _ hmem), get?_setStyle, if_neg hne]

/-- A text that is brought in line is written only if it differs. -/
lemma setText_spec (text : String) (live : LiveElement) :
    live.setText text = { live with
      text := text, textWrites := live.textWrites + if live.text = text then 0 else 1 } := by
  unfold setText
  split_ifs with h
  · rw [← h]
    rfl
  · rfl

/-- An element with its text brought in line with a composition. -/
def withText (element : Element) (c : Composition) (live : LiveElement) : LiveElement :=
  if c.computed.content.isSome && element.kind?.any ElementKind.showsText then
    live.setText c.content
  else live

/-- Bringing the text in line writes it where that is needed, and touches nothing else. -/
lemma withText_spec (element : Element) (c : Composition) (live : LiveElement) :
    (c.computed.content.isSome → element.kind?.any ElementKind.showsText →
      (withText element c live).text = c.content) ∧
    withText element c live = { live with
      text := (withText element c live).text
      textWrites := live.textWrites + if needsText element c live then 1 else 0 } := by
  by_cases hshows : c.computed.content.isSome && element.kind?.any ElementKind.showsText
  · have hset : withText element c live = live.setText c.content := by
      rw [withText, if_pos hshows]
    rw [hset, setText_spec]
    refine ⟨fun _ _ => rfl, ?_⟩
    by_cases htext : live.text = c.content <;> simp [needsText, hshows, htext]
  · have hset : withText element c live = live := by
      rw [withText, if_neg hshows]
    rw [hset]
    refine ⟨fun hcontent hkind => absurd ?_ hshows, ?_⟩
    · rw [hcontent, hkind]
      rfl
    · simp [needsText, hshows]

/-! ## Animations -/

/-- A text is shown as an animation unless it is empty or `none`. -/
lemma shownAnimation_str (t : String) :
    shownAnimation (.str t) = .str (if t = "" ∨ t = "none" then "none" else t) := by
  by_cases hempty : t = ""
  · simp [shownAnimation, plays, Value.isFilled, hempty]
  by_cases hnone : t = "none"
  · simp [shownAnimation, plays, hnone]
  · simp [shownAnimation, plays, Value.isFilled, Value.equals_str, hempty, hnone]

/-- An element with an animation that is given as a text started: the layout is forced only for one
that plays. -/
def started (t : String) (live : LiveElement) : LiveElement :=
  { live with
    style := Fields.put "animation" (shownAnimation (.str t)) live.style
    reflows := live.reflows + if t = "" ∨ t = "none" then 0 else 1 }

/-- Showing an animation that is given as a text starts it. -/
lemma animate_str (t : String) (live : LiveElement) :
    live.animate (.str t) = .ok (live.started t) := by
  rw [started, shownAnimation_str]
  by_cases hempty : t = ""
  · subst hempty
    rfl
  by_cases hnone : t = "none"
  · subst hnone
    rfl
  · have hequals : (Value.str t).equals (.str "none") = false := by
      rw [Bool.eq_false_iff, ne_eq, Value.equals_str]
      simpa using hnone
    have htruthy : Coercion.truthy (.str t) = .ok true := by
      simp [Coercion.truthy, hempty]
    simp [animate, htruthy, hequals, hempty, hnone, play, setStyle, pure, Except.pure, bind,
      Except.bind]

/-- An element with the computed animation of a composition started unless it is the tracked one. -/
def animated (tracked : Option Value) (c : Composition) (live : LiveElement) : LiveElement :=
  match Fields.get? c.computed.style "animation" with
  | some (.str t) => if tracked = some (.str t) then live else live.started t
  | _ => live

/-- An animation that is started leaves text and other style entries alone. -/
lemma animated_keeps (tracked : Option Value) (c : Composition) (live : LiveElement) :
    (animated tracked c live).text = live.text ∧ (animated tracked c live).mounted = live.mounted ∧
      ∀ key, key ≠ "animation" →
        Fields.get? (animated tracked c live).style key = Fields.get? live.style key := by
  unfold animated
  split
  case h_1 t _ =>
    split_ifs
    · exact ⟨rfl, rfl, fun _ _ => rfl⟩
    · refine ⟨rfl, rfl, fun key hkey => ?_⟩
      rw [started, Fields.get?_put, if_neg (Ne.symm hkey)]
  case h_2 => exact ⟨rfl, rfl, fun _ _ => rfl⟩

/-! ## Before the animation -/

/-- An element `live` has become `second`, in line with a composition but for the animation. -/
structure Prepared (element : Element) (c : Composition) (live second : LiveElement) : Prop where
  text : c.computed.content.isSome → element.kind?.any ElementKind.showsText →
    second.text = c.content
  style : ∀ key ∈ followedKeys, ∀ v, Fields.get? c.computed.style key = some v →
    ∃ shown, shownValue key v = .ok shown ∧ Fields.get? second.style key = some shown
  animation : Fields.get? second.style "animation" = Fields.get? live.style "animation"
  mounted : second.mounted = live.mounted
  textWrites : second.textWrites = live.textWrites + if needsText element c live then 1 else 0
  reflows : second.reflows = live.reflows

/-- Text and followed style entries are brought in line without touching the animation. -/
lemma prepared_of_applyStyles {element : Element} {c : Composition} {live second : LiveElement}
    (h : (withText element c live).applyStyles c.computed.style followedKeys = (none, second)) :
    Prepared element c live second := by
  obtain ⟨hcontent, hfirst⟩ := withText_spec element c live
  obtain ⟨hwritten, hkept, hsecond⟩ := applyStyles_spec (by decide) h
  have htext : second.text = (withText element c live).text := by rw [hsecond]
  refine ⟨fun hc hk => htext.trans (hcontent hc hk), hwritten, ?_, ?_, ?_, ?_⟩
  · rw [hkept "animation" (by decide), hfirst]
  · rw [hsecond, hfirst]
  · rw [hsecond, hfirst]
  · rw [hsecond, hfirst]

section Prepared

variable {element : Element} {c : Composition} {live second : LiveElement} {tracked : Option Value}

/-- Without a computed animation nothing is left to do. -/
lemma Prepared.follows_of_none (h : Prepared element c live second)
    (hv : Fields.get? c.computed.style "animation" = none) :
    Follows element c tracked live second where
  shows := ⟨h.text, h.style, fun t ht => by cases hv.symm.trans ht⟩
  mounted := h.mounted
  textWrites := h.textWrites
  reflows := by simpa [needsRestart, hv] using h.reflows

/-- A computed animation that is tracked shows already. -/
lemma Prepared.follows_of_tracked (h : Prepared element c live second) {t : String}
    (hv : Fields.get? c.computed.style "animation" = some (.str t)) (ht : tracked = some (.str t))
    (htracks : Tracks tracked live) : Follows element c tracked live second where
  shows := by
    refine ⟨h.text, h.style, fun t' ht' => ?_⟩
    cases hv.symm.trans ht'
    rw [h.animation, htracks _ ht, shownAnimation_str]
  mounted := h.mounted
  textWrites := h.textWrites
  reflows := by simpa [needsRestart, hv, ht] using h.reflows

/-- A computed animation that is not tracked is started. -/
lemma Prepared.follows_of_not_tracked (h : Prepared element c live second) {t : String}
    (hv : Fields.get? c.computed.style "animation" = some (.str t)) (ht : tracked ≠ some (.str t)) :
    Follows element c tracked live (second.started t) where
  shows := by
    refine ⟨h.text, fun key hkey v hv => ?_, fun t' ht' => ?_⟩
    · obtain ⟨shown, hshown, hget⟩ := h.style key hkey v hv
      have hne : "animation" ≠ key := by
        rintro rfl
        exact absurd hkey (by decide)
      exact ⟨shown, hshown, by rw [started, Fields.get?_put, if_neg hne, hget]⟩
    · cases hv.symm.trans ht'
      rw [started, Fields.get?_put, if_pos rfl, shownAnimation_str]
  mounted := h.mounted
  textWrites := h.textWrites
  reflows := by
    have hneeds : needsRestart tracked c = decide (¬(t = "" ∨ t = "none")) := by
      simp [needsRestart, hv, ht, not_or]
    rw [hneeds, started, h.reflows]
    by_cases hnone : t = "" ∨ t = "none" <;> simp [hnone]

end Prepared

end LiveElement

namespace Session

open LiveElement

/-- A text is the tracked animation exactly if it stands there. -/
lemma get_equals_str {animations : Fields} {id t : String} :
    (Fields.get animations id).equals (.str t) = true ↔
      Fields.get? animations id = some (.str t) := by
  rw [Value.equals_str, Fields.get]
  rcases Fields.get? animations id with _ | v <;> simp

/-- A computed animation that is tracked is left alone. -/
lemma applyAnimation_of_tracked {s : Session} {id t : String} (live : LiveElement)
    (h : Fields.get? s.state.animations id = some (.str t)) :
    s.applyAnimation id (.str t) live = (none, s.put id live) := by
  rw [applyAnimation, if_pos (get_equals_str.2 h)]

/-- A computed animation that is not tracked is started and tracked. -/
lemma applyAnimation_of_not_tracked {s : Session} {id t : String} (live : LiveElement)
    (h : Fields.get? s.state.animations id ≠ some (.str t)) :
    s.applyAnimation id (.str t) live =
      (none, { s with
        document := s.document.put id (live.started t)
        state := { s.state with
          animations := Fields.put id (.str t) s.state.animations } }) := by
  rw [applyAnimation, if_neg (mt get_equals_str.1 h)]
  simp only [animate_str, put]

/-- What is tracked after an element was brought in line with a composition. -/
def trackedAfter (id : String) (c : Composition) (animations : Fields) : Fields :=
  match Fields.get? c.computed.style "animation" with
  | none => animations
  | some v => if Fields.get? animations id = some v then animations else Fields.put id v animations

/-- A computed animation is tracked afterwards. -/
lemma get?_trackedAfter {id : String} {c : Composition} {animations : Fields} {v : Value}
    (hv : Fields.get? c.computed.style "animation" = some v) :
    Fields.get? (trackedAfter id c animations) id = some v := by
  simp only [trackedAfter, hv]
  split_ifs with htracked
  · exact htracked
  · rw [Fields.get?_put, if_pos rfl]

/-- What is tracked of other elements stays. -/
lemma get?_trackedAfter_of_ne {id other : String} (h : other ≠ id) (c : Composition)
    (animations : Fields) :
    Fields.get? (trackedAfter id c animations) other = Fields.get? animations other := by
  rw [trackedAfter]
  split
  case h_1 => rfl
  case h_2 v _ =>
    split_ifs
    · rfl
    · rw [Fields.get?_put, if_neg (Ne.symm h)]

/-- **All that bringing an element in line does** when it succeeds: text and followed style entries
are brought in line, the computed animation is started unless it is tracked, and it is tracked
then. -/
lemma apply_ok {element : Element} {live : LiveElement} {c : Composition} {s s' : Session}
    (h : s.apply element live c = (none, s')) (htext : c.HasTextAnimation) :
    ∃ second, Prepared element c live second ∧ s' = { s with
      document := s.document.put element.id
        (animated (Fields.get? s.state.animations element.id) c second)
      state := { s.state with animations := trackedAfter element.id c s.state.animations } } := by
  unfold apply at h
  dsimp only at h
  rw [← withText] at h
  rcases hstyles : (withText element c live).applyStyles c.computed.style followedKeys with
    ⟨_ | fault, second⟩
  swap
  · rw [hstyles] at h
    cases h
  refine ⟨second, prepared_of_applyStyles hstyles, ?_⟩
  rw [hstyles] at h
  rcases hv : Fields.get? c.computed.style "animation" with _ | v
  · simp only [hv] at h
    cases h
    simp only [trackedAfter, animated, hv, put]
  obtain ⟨t, rfl⟩ := htext v hv
  simp only [hv] at h
  by_cases htracked : Fields.get? s.state.animations element.id = some (.str t)
  · rw [applyAnimation_of_tracked second htracked] at h
    cases h
    simp only [trackedAfter, animated, hv, htracked, if_true, put]
  · rw [applyAnimation_of_not_tracked second htracked] at h
    cases h
    simp only [trackedAfter, animated, hv, htracked, if_false]

/-- **An element that is brought in line follows its composition**, if the tracked animation was
the one that showed; and it is so again afterwards. Nothing else changes.

**Proof sketch.** The style keys that are followed do not include the animation. A computed
animation that is the tracked one shows already; any other one is started and tracked. -/
theorem apply_spec {element : Element} {live : LiveElement} {c : Composition} {s s' : Session}
    (h : s.apply element live c = (none, s')) (htext : c.HasTextAnimation)
    (htracks : Tracks (Fields.get? s.state.animations element.id) live) :
    ∃ live', s' = { s with
        document := s.document.put element.id live'
        state := { s.state with animations := trackedAfter element.id c s.state.animations } } ∧
      Follows element c (Fields.get? s.state.animations element.id) live live' ∧
      Tracks (Fields.get? s'.state.animations element.id) live' := by
  obtain ⟨second, hprepared, rfl⟩ := apply_ok h htext
  refine ⟨_, rfl, ?_⟩
  have hkeeps : Tracks (Fields.get? s.state.animations element.id) second :=
    fun a ha => hprepared.animation.trans (htracks a ha)
  rcases hv : Fields.get? c.computed.style "animation" with _ | v
  · simp only [animated, trackedAfter, hv]
    exact ⟨hprepared.follows_of_none hv, hkeeps⟩
  obtain ⟨t, rfl⟩ := htext v hv
  by_cases htracked : Fields.get? s.state.animations element.id = some (.str t)
  · simp only [animated, trackedAfter, hv, htracked, if_true]
    exact ⟨htracked ▸ hprepared.follows_of_tracked hv htracked htracks, htracked ▸ hkeeps⟩
  · simp only [animated, trackedAfter, hv, htracked, if_false]
    refine ⟨hprepared.follows_of_not_tracked hv htracked, fun a ha => ?_⟩
    rw [Fields.get?_put, if_pos rfl] at ha
    cases ha
    rw [started, Fields.get?_put, if_pos rfl]

end Session

end DesignGraph
