import DesignGraph.Proofs.Live.Steps
/-!
# The memory of triggers

A session remembers the triggers of the elements that are shown, and no others. Whoever leaves the
page is forgotten, before anything in the change of page can fail, and a visit records triggers
under the id of an element of the shown page, for the action nodes of its graphs. So no fault, of a
tick halfway through its pass or of a page that cannot be shown, lets the memory of a page outlive
its stay.

## Main definitions

* `DesignGraph.Project.HasAction` — a node acts in a graph of an element of a page.
* `DesignGraph.Session.RemembersShown` — only triggers of shown elements are remembered.

## Main results

* `DesignGraph.Session.RemembersShown.triggers_leavePage` — who leaves a page is forgotten.
* `DesignGraph.Session.RemembersShown.step` — every step keeps the memory to the shown page.
* `DesignGraph.Session.triggers_of_shown` — it holds throughout, and a change of page leaves no
  memory.
-/

set_option relaxedAutoImplicit false
set_option autoImplicit false

namespace DesignGraph

/-! ## Stores -/

namespace Fields

variable {α : Type}

/-- What a lookup finds is an entry. -/
lemma mem_of_get? {fields : List (String × α)} {key : String} {a : α}
    (h : get? fields key = some a) : (key, a) ∈ fields := by
  induction fields with
  | nil => cases h
  | cons field rest ih =>
    obtain ⟨k, b⟩ := field
    rw [get?] at h
    split_ifs at h with hk
    · cases h
      exact hk ▸ List.mem_cons_self
    · exact List.mem_cons_of_mem _ (ih h)

/-- After the entries of elements were removed, those are left that are of none of them. -/
lemma mem_foldl_erase {elements : List Element} {fields : List (String × α)}
    {entry : String × α} :
    entry ∈ elements.foldl (fun fields element => erase element.id fields) fields ↔
      entry ∈ fields ∧ ∀ element ∈ elements, element.id ≠ entry.1 := by
  induction elements generalizing fields with
  | nil => simp
  | cons element rest ih =>
    rw [List.foldl_cons, ih, erase, List.mem_filter, List.forall_mem_cons, and_assoc, bne_iff_ne,
      ne_comm]

end Fields

/-! ## What is recorded -/

/-- A node with the given id navigates, opens a link or alerts, in a graph of an element with the
given id that lies on the page. -/
def Project.HasAction (project : Project) (page : Value) (id node : String) : Prop :=
  ∃ element ∈ project.elementsOn page, element.id = id ∧
    ∃ graphs, element.graphs project = .ok graphs ∧ ∃ graph ∈ graphs, ∃ found ∈ graph.nodes,
      found.id = node ∧
        (found.kind? = some .navigate ∨ found.kind? = some .link ∨ found.kind? = some .alert)

/-- The kinds that act. -/
lemma Kind.eq_of_isAction {kind : Kind} (h : kind.isAction = true) :
    kind = .navigate ∨ kind = .link ∨ kind = .alert := by
  cases kind <;> first | exact absurd h (by decide) | simp

/-- A composition records triggers for the action nodes of the element's graphs only. -/
lemma Session.compose_records {project : Project} {element : Element} {s : Session}
    (hproject : s.project = project) (helement : element ∈ project.elementsOn s.state.page)
    (hs : ∀ field ∈ s.state.triggersOf element.id,
      project.HasAction s.state.page element.id field.1) :
    ∀ field ∈ (Composition.compose (s.setting element) (s.progress element)).2.triggers,
      project.HasAction s.state.page element.id field.1 := by
  refine Composition.compose_keeps
    (P := fun triggers _ => ∀ field ∈ triggers, project.HasAction s.state.page element.id field.1)
    (Composition.Setting.hands_of_remembers rfl)
    (fun graphs hgraphs graph hgraph id node hnode => ?_) hs
  have hgraphs' : element.graphs project = .ok graphs := hproject ▸ hgraphs
  have hmem : node ∈ graph.nodes := List.mem_of_find?_eq_some hnode
  refine node.program_within.mono (fun request hask p hp => ?_) fun _ _ => trivial
  cases request with
  | edge v =>
    intro field hfield
    rcases Fields.mem_put hfield with rfl | hfield
    · obtain ⟨kind, hkind, hact⟩ := hask
      refine ⟨element, helement, rfl, graphs, hgraphs', graph, hgraph, node, hmem, rfl, ?_⟩
      simpa [hkind] using Kind.eq_of_isAction hact
    · exact hp field hfield
  | _ => exact hp

namespace Session

variable {project : Project} {s s' : Session}

/-- Only triggers of shown elements are remembered: under the ids of elements on the shown page,
and there for nodes that act in a graph of such an element. -/
structure RemembersShown (project : Project) (s : Session) : Prop where
  entries : ∀ entry ∈ s.state.triggers, ∃ element ∈ project.elementsOn s.state.page,
    element.id = entry.1
  nodes : ∀ entry ∈ s.state.triggers, ∀ field ∈ entry.2,
    project.HasAction s.state.page entry.1 field.1
  project : s.project = project

/-- What changes neither the page nor the triggers keeps the memory as it is. -/
lemma RemembersShown.congr (h : RemembersShown project s) (hproject : s'.project = s.project)
    (hpage : s'.state.page = s.state.page) (htriggers : s'.state.triggers = s.state.triggers) :
    RemembersShown project s' := by
  obtain ⟨hentries, hnodes, hp⟩ := h
  rw [← hpage, ← htriggers] at hentries hnodes
  exact ⟨hentries, hnodes, hproject.trans hp⟩

/-- A session without memory remembers no triggers of others. -/
lemma remembersShown_of_nil (hproject : s.project = project) (h : s.state.triggers = []) :
    RemembersShown project s := by
  refine ⟨?_, ?_, hproject⟩ <;>
  · rw [h]
    exact nofun

/-- **Who leaves a page is forgotten**, and so nothing is remembered. -/
lemma RemembersShown.triggers_leavePage (h : RemembersShown project s) :
    s.leavePage.state.triggers = [] := by
  obtain ⟨-, -, htriggers⟩ := leavePage_effects s
  rw [htriggers]
  refine List.eq_nil_iff_forall_not_mem.2 fun entry hentry => ?_
  obtain ⟨hmem, hothers⟩ := Fields.mem_foldl_erase.1 hentry
  obtain ⟨element, helement, hid⟩ := h.entries entry hmem
  exact hothers element (h.project ▸ helement) hid

/-- **A change to another page leaves no memory**, also if it fails. -/
lemma RemembersShown.triggers_navigateTo (h : RemembersShown project s) {page : Value}
    (hpage : s.state.page.equals page = false) : (s.navigateTo page).2.state.triggers = [] := by
  have hleft := h.triggers_leavePage
  rcases navigateTo_effects page s with ⟨hequals, -⟩ | ⟨-, -, heq⟩ |
    ⟨-, -, document, shown, animations, -, heq⟩
  · exact absurd (hequals.symm.trans hpage) (by decide)
  · rw [heq]
    exact hleft
  · rw [heq]
    exact hleft

/-- A change of page keeps the memory to the shown page. -/
lemma RemembersShown.navigateTo (h : RemembersShown project s) (page : Value) :
    RemembersShown project (s.navigateTo page).2 := by
  cases hpage : s.state.page.equals page with
  | true =>
    rw [Session.navigateTo, if_pos hpage]
    exact h
  | false =>
    exact remembersShown_of_nil ((navigateTo_keeps_project page s).trans h.project)
      (h.triggers_navigateTo hpage)

/-- A visit to a shown element keeps the memory to the shown page. -/
lemma RemembersShown.visit (h : RemembersShown project s) {element : Element}
    (helement : element ∈ project.elementsOn s.state.page) :
    RemembersShown project (s.visit element).2 := by
  rcases visit_effects element s with heq | ⟨shown, animations, p, rfl, heq⟩ <;> rw [heq]
  · exact h
  have hbefore : ∀ field ∈ s.state.triggersOf element.id,
      project.HasAction s.state.page element.id field.1 := by
    rw [LiveState.triggersOf]
    rcases hfound : Fields.get? s.state.triggers element.id with _ | triggers
    · exact nofun
    · exact h.nodes _ (Fields.mem_of_get? hfound)
  have hafter := compose_records h.project helement hbefore
  refine ⟨fun entry hentry => ?_, fun entry hentry => ?_, h.project⟩
  · rcases Fields.mem_put hentry with rfl | hentry
    · exact ⟨element, helement, rfl⟩
    · exact h.entries entry hentry
  · rcases Fields.mem_put hentry with rfl | hentry
    · exact hafter
    · exact h.nodes entry hentry

/-- **Every step keeps the memory to the shown page.** -/
lemma RemembersShown.step {given : List Input} (h : RemembersShown project s)
    (hstep : Step given s s') : RemembersShown project s' := by
  cases hstep with
  | aside | shutdown | ask => exact h.congr rfl rfl rfl
  | point input _ hpoints =>
    obtain ⟨_, _, heq⟩ := receive_pointing hpoints s
    rw [heq]
    exact h.congr rfl rfl rfl
  | visit element helement => exact h.visit (h.project ▸ helement)
  | flush =>
    rw [flush_effects]
    exact h.congr rfl rfl rfl
  | follow =>
    have hasked : RemembersShown project { s with pendingPage := .null } := h.congr rfl rfl rfl
    exact hasked.navigateTo _
  | navigate page => exact h.navigateTo page

/-- A tick that ends on another page leaves no memory. -/
lemma RemembersShown.triggers_tick (h : RemembersShown project s)
    (hpage : s.tick.2.state.page ≠ s.state.page) : s.tick.2.state.triggers = [] := by
  obtain ⟨passed, (hsteps : Steps [] s passed), hpassed, htick | htick⟩ := tick_parts s
  · rw [htick] at hpage
    exact absurd hpassed hpage
  have hshown : RemembersShown project passed := hsteps.induct (fun _ _ hstep h => h.step hstep) h
  rw [htick] at hpage ⊢
  rw [followRequest] at hpage ⊢
  split_ifs at hpage ⊢ with hpending
  · exact absurd hpassed hpage
  have hasked : RemembersShown project { passed with pendingPage := .null } :=
    hshown.congr rfl rfl rfl
  refine hasked.triggers_navigateTo (Bool.eq_false_iff.2 fun hequals => hpage ?_)
  rw [Session.navigateTo, if_pos hequals]
  exact hpassed

/-- **The memory of triggers**, whatever inputs a session got since its start and whatever faults
there were. It is kept under the ids of elements on the shown page, for nodes that act in a graph of
an element with that id; so an element without its id on the shown page has none. A change to
another page leaves no memory, also if it fails, and so does a tick that ends on another page. -/
theorem triggers_of_shown (project : Project) (document : Document) (dispatcher : Dispatcher)
    (samples : Nat → Float) (clock : Clock) (inputs : List Input) :
    let s := (receiveAll inputs (new project document dispatcher samples clock)).2
    (∀ entry ∈ s.state.triggers,
      (∃ element ∈ project.elementsOn s.state.page, element.id = entry.1) ∧
        ∀ field ∈ entry.2, project.HasAction s.state.page entry.1 field.1) ∧
    (∀ id, (∀ element ∈ project.elementsOn s.state.page, element.id ≠ id) →
      Fields.get? s.state.triggers id = none) ∧
    (∀ page, s.state.page.equals page = false → (s.navigateTo page).2.state.triggers = []) ∧
    (s.tick.2.state.page ≠ s.state.page → s.tick.2.state.triggers = []) := by
  intro s
  have hstart : RemembersShown project (new project document dispatcher samples clock) :=
    remembersShown_of_nil rfl rfl
  have h : RemembersShown project s :=
    receiveAll_induct (fun _ _ hstep h => h.step hstep) hstart
  refine ⟨fun entry hentry => ⟨h.entries entry hentry, h.nodes entry hentry⟩, fun id hid => ?_,
    fun page => h.triggers_navigateTo, h.triggers_tick⟩
  refine Option.eq_none_iff_forall_not_mem.2 fun triggers hfound => ?_
  obtain ⟨element, helement, heq⟩ := h.entries _ (Fields.mem_of_get? hfound)
  exact hid element helement heq

end Session

end DesignGraph
