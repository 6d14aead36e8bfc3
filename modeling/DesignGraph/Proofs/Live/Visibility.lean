import DesignGraph.Proofs.Live.Steps
import DesignGraph.Proofs.Live.Triggers
/-!
# The visible page

A session shows one page, the one that its state names. A change of page hides the page that is
left before the new one is shown, and a list or an object cannot be shown. So a navigation to one
of them fails halfway: the old page is still the one that the state names, and no page is visible
until another one is shown. This is the only way in which a page gets lost.

## Main definitions

* `DesignGraph.Session.NavigationLaw` — what a change of page makes visible.
* `DesignGraph.OnlyKeys` — neither graphs nor inputs lead to a list or an object.

## Main results

* `DesignGraph.Session.InView.navigationLaw` — every change of page obeys the law.
* `DesignGraph.Session.InView.step` — what every step keeps of the visible pages.
* `DesignGraph.Session.visible_pages` — what is visible, whatever inputs and faults there were.
* `DesignGraph.Session.trapdoor_hides_page` — a tick after which the shown page is hidden.
-/

set_option relaxedAutoImplicit false
set_option autoImplicit false

namespace DesignGraph

/-! ## Visible pages of documents -/

/-- Every value addresses its own entry. -/
lemma Value.sameKey_self (v : Value) : v.sameKey v = true := by
  simp [sameKey]

namespace Document

/-- Where no other page is visible, nothing is left after a page is hidden. -/
lemma visible_hidePage {page : Value} {document : Document}
    (h : document.visible = [page] ∨ document.visible = []) :
    (document.hidePage page).visible = [] := by
  rcases h with h | h <;> simp [hidePage, h, Value.sameKey_self]

/-- Where nothing is visible, just the page that is shown is visible afterwards. -/
lemma visible_showPage {page : Value} {document document' : Document}
    (h : document.showPage page = .ok document') (hvisible : document.visible = []) :
    document'.visible = [page] := by
  cases hkey : page.isKey with
  | false =>
    rw [showPage_of_not_isKey hkey] at h
    cases h
  | true =>
    rw [showPage_of_isKey hkey, hvisible] at h
    cases h
    rfl

/-- At first just the first page is visible, if there are pages and none has an empty name. -/
lemma visible_ofProject {project : Project} {document : Document} (hpages : project.pages ≠ [])
    (hids : ∀ page ∈ project.pages, page.id ≠ "") (h : ofProject project = .ok document) :
    project.firstPage ≠ .null ∧ document.visible = [project.firstPage] := by
  obtain ⟨page, rest, hcons⟩ := List.exists_cons_of_ne_nil hpages
  have hfirst : project.firstPage = .str page.id := by
    rw [Project.firstPage, hcons]
    rfl
  have hid : page.id ≠ "" := hids page (hcons ▸ List.mem_cons_self)
  have hfilled : project.firstPage.isFilled = true := by
    rw [hfirst]
    simpa [Value.isFilled] using hid
  rw [ofProject] at h
  rcases hrender : render project project.elements [] with fault | shown
  · rw [hrender] at h
    cases h
  · rw [hrender] at h
    cases h
    refine ⟨by simp [hfirst], ?_⟩
    exact if_pos hfilled

end Document

/-! ## Pages that are asked for -/

/-- The page that an input asks for. -/
def Input.page? : Input → Option Value
  | .requestNavigation page | .navigateTo page => some page
  | _ => none

/-- Every node that navigates, in a graph of an element, leads to a page that can be shown. -/
def Project.NavigatesByKeys (project : Project) : Prop :=
  ∀ element ∈ project.elements, ∀ graphs, element.graphs project = .ok graphs →
    ∀ graph ∈ graphs, ∀ node ∈ graph.nodes, node.kind? = some .navigate →
      node.literal.isKey = true

/-- Neither graphs nor inputs lead to a list or an object. -/
def OnlyKeys (project : Project) (inputs : List Input) : Prop :=
  project.NavigatesByKeys ∧
    ∀ input ∈ inputs, ∀ page, input.page? = some page → page.isKey = true

/-- Graphs that lead to no list and no object ask for none. -/
lemma Project.NavigatesByKeys.compose {project : Project} {element : Element} {s : Session}
    (h : project.NavigatesByKeys) (hproject : s.project = project)
    (helement : element ∈ project.elements) (hs : s.pendingPage.isKey = true) :
    (Composition.compose (s.setting element) (s.progress element)).2.outlet.pendingPage.isKey =
      true := by
  refine Composition.compose_keeps (P := fun _ (o : Outlet) => o.pendingPage.isKey = true)
    (Composition.Setting.hands_of_remembers rfl)
    (fun graphs hgraphs graph hgraph id node hnode => ?_) hs
  have hgraphs' : element.graphs project = .ok graphs := hproject ▸ hgraphs
  have hmem : node ∈ graph.nodes := List.mem_of_find?_eq_some hnode
  refine node.program_mayNavigate.mono (fun request hask p hp => ?_) fun _ h => h
  cases request with
  | fire action =>
    cases action with
    | navigate page =>
      obtain ⟨hkind, rfl, -⟩ := hask page rfl
      exact h element helement graphs hgraphs' graph hgraph node hmem hkind
    | _ => exact hp
  | _ => exact hp

namespace Session

variable {project : Project} {inputs : List Input} {s s' : Session}

/-! ## Changes of page -/

/-- What a change of page makes visible: nothing changes if the page is shown already; a page that
can be shown is then the visible one; a list or an object is refused, and after that the old page is
still the shown one although it is hidden. -/
structure NavigationLaw (s : Session) (page : Value) : Prop where
  stays : s.state.page.equals page = true → s.navigateTo page = (none, s)
  shows : s.state.page.equals page = false → page.isKey = true →
    (s.navigateTo page).2.state.page = page ∧ (s.navigateTo page).2.document.visible = [page]
  refuses : s.state.page.equals page = false → page.isKey = false →
    (s.navigateTo page).1 = some .wrongKind ∧
      (s.navigateTo page).2.state.page = s.state.page ∧
      (s.navigateTo page).2.document.visible = []

/-- What holds of the pages of a session, whatever faults there were: some page is shown, and it is
the visible one or no page is visible. The latter does not happen as long as neither graphs nor
inputs lead to a list or an object. -/
structure InView (project : Project) (inputs : List Input) (s : Session) : Prop where
  page : s.state.page ≠ .null
  visible : s.document.visible = [s.state.page] ∨ s.document.visible = []
  keyed : OnlyKeys project inputs →
    s.pendingPage.isKey = true ∧ s.document.visible = [s.state.page]
  project : s.project = project

/-- What changes neither pages nor the request for one keeps a session in view. -/
lemma InView.congr (h : InView project inputs s) (hproject : s'.project = s.project)
    (hpage : s'.state.page = s.state.page) (hvisible : s'.document.visible = s.document.visible)
    (hpending : s'.pendingPage = s.pendingPage) : InView project inputs s' := by
  obtain ⟨hn, hv, hk, hp⟩ := h
  rw [← hpage] at hn hv hk
  rw [← hvisible] at hv hk
  rw [← hpending] at hk
  exact ⟨hn, hv, hk, hproject.trans hp⟩

/-- When its page is left, a session has no visible page. -/
lemma InView.visible_leavePage (h : InView project inputs s) :
    s.leavePage.document.visible = [] := by
  rw [leavePage]
  simp only [if_neg h.page]
  exact Document.visible_hidePage h.visible

/-- **Every change of page obeys the law.** -/
theorem InView.navigationLaw (h : InView project inputs s) (page : Value) :
    NavigationLaw s page := by
  have hleft := h.visible_leavePage
  have hpage : s.leavePage.state.page = s.state.page := (leavePage_effects s).2.1
  rcases navigateTo_effects page s with ⟨hequals, heq⟩ | ⟨hequals, hkey, heq⟩ |
    ⟨hequals, hkey, document, shown, animations, hshow, heq⟩
  · exact ⟨fun _ => heq, fun hne => absurd (hequals.symm.trans hne) (by decide),
      fun hne => absurd (hequals.symm.trans hne) (by decide)⟩
  · refine ⟨fun he => absurd (hequals.symm.trans he) (by decide),
      fun _ hk => absurd (hkey.symm.trans hk) (by decide), fun _ _ => ?_⟩
    rw [heq]
    exact ⟨rfl, hpage, hleft⟩
  · refine ⟨fun he => absurd (hequals.symm.trans he) (by decide), fun _ _ => ?_,
      fun _ hk => absurd (hkey.symm.trans hk) (by decide)⟩
    have hvisible : document.visible = [page] := Document.visible_showPage hshow hleft
    rw [heq]
    exact ⟨rfl, hvisible⟩

/-- A change to a page other than null keeps a session in view. -/
lemma InView.navigateTo (h : InView project inputs s) {page : Value} (hpage : page ≠ .null)
    (hkeyed : OnlyKeys project inputs → page.isKey = true) :
    InView project inputs (s.navigateTo page).2 := by
  have hleft := h.visible_leavePage
  rcases navigateTo_effects page s with ⟨-, heq⟩ | ⟨-, hkey, heq⟩ |
    ⟨-, -, document, shown, animations, hshow, heq⟩
  · rw [heq]
    exact h
  · rw [heq]
    have hshown : s.leavePage.state.page = s.state.page := (leavePage_effects s).2.1
    refine ⟨?_, .inr hleft, fun honly => ?_, h.project⟩
    · rw [hshown]
      exact h.page
    · exact absurd (hkeyed honly) (by rw [hkey]; exact Bool.false_ne_true)
  · rw [heq]
    have hvisible : document.visible = [page] := Document.visible_showPage hshow hleft
    exact ⟨hpage, .inl hvisible, fun honly => ⟨(h.keyed honly).1, hvisible⟩, h.project⟩

/-- **Every step keeps a session in view**, if null is not navigated to. -/
lemma InView.step (hnull : .navigateTo .null ∉ inputs) (h : InView project inputs s)
    (hstep : Step inputs s s') : InView project inputs s' := by
  cases hstep with
  | aside => exact h.congr rfl rfl rfl rfl
  | point input _ hpoints =>
    obtain ⟨_, _, heq⟩ := receive_pointing hpoints s
    rw [heq]
    exact h.congr rfl rfl rfl rfl
  | visit element helement =>
    rcases visit_effects element s with heq | ⟨shown, animations, p, rfl, heq⟩ <;> rw [heq]
    · exact h
    refine ⟨h.page, h.visible, fun honly => ⟨?_, (h.keyed honly).2⟩, h.project⟩
    have hmem : element ∈ project.elements := h.project ▸ List.mem_of_mem_filter helement
    exact honly.1.compose h.project hmem (h.keyed honly).1
  | flush =>
    rw [flush_effects]
    exact h.congr rfl rfl rfl rfl
  | shutdown => exact h.congr rfl rfl rfl rfl
  | ask page hmem =>
    refine ⟨h.page, h.visible, fun honly => ⟨?_, (h.keyed honly).2⟩, h.project⟩
    exact honly.2 _ hmem page rfl
  | follow hpending =>
    have hasked : InView project inputs { s with pendingPage := .null } :=
      ⟨h.page, h.visible, fun honly => ⟨rfl, (h.keyed honly).2⟩, h.project⟩
    exact hasked.navigateTo hpending fun honly => (h.keyed honly).1
  | navigate page hmem =>
    refine h.navigateTo ?_ fun honly => honly.2 _ hmem page rfl
    rintro rfl
    exact hnull hmem

/-- **What is visible**, whatever inputs a session got since its start and whatever faults there
were, if there are pages, each with a name, and null was not navigated to. Either just the shown page
is visible or no page is. Every change of page obeys the law, so no page is visible just after a list
or an object was refused and before another page is shown. It does not come to that if neither graphs
nor inputs lead to a list or an object. -/
theorem visible_pages {document : Document} {dispatcher : Dispatcher} {samples : Nat → Float}
    {clock : Clock} (hpages : project.pages ≠ []) (hids : ∀ page ∈ project.pages, page.id ≠ "")
    (hdocument : Document.ofProject project = .ok document) (hnull : .navigateTo .null ∉ inputs)
    (hs : (receiveAll inputs (new project document dispatcher samples clock)).2 = s) :
    (s.document.visible = [s.state.page] ∨ s.document.visible = []) ∧
      (∀ page, NavigationLaw s page) ∧
      (OnlyKeys project inputs → s.document.visible = [s.state.page]) := by
  obtain ⟨hpage, hvisible⟩ := Document.visible_ofProject hpages hids hdocument
  have hstart : InView project inputs (new project document dispatcher samples clock) :=
    ⟨hpage, .inl hvisible, fun _ => ⟨rfl, hvisible⟩, rfl⟩
  have hreached : InView project inputs s :=
    hs ▸ receiveAll_induct (fun _ _ hstep h => h.step hnull hstep) hstart
  exact ⟨hreached.visible, hreached.navigationLaw, fun honly => (hreached.keyed honly).2⟩

/-! ## A trapdoor -/

/-- A script that leads to a page at once. -/
def leavingScript (page : Value) : Graph :=
  ⟨[⟨"switch", "TOGGLE", [("value", .bool true)]⟩, ⟨"go", "NAVIGATE", [("value", page)]⟩],
    [⟨"switch", "go", "in-trigger"⟩], .str "leave", .null⟩

/-- The badge of the chime with a script that leads to a page. -/
def trapdoor (page : Value) : Project :=
  { chime ["leave"] with
    pages := [⟨"home", .null⟩, ⟨"about", .null⟩]
    scripts := [leavingScript page] }

/-- The session of the badge at the start. -/
def trapdoorStart (page : Value) : Session :=
  new (trapdoor page) chimeDocument (.new [.recorder] false) (fun _ => 0.5) ⟨0, 1, []⟩

/-- The badge leads to its page, which is then the visible one, until a list is navigated to. -/
theorem trapdoor_shows_page :
    let s := (receiveAll [.tick] (trapdoorStart (.str "about"))).2
    s.state.page = .str "about" ∧ s.document.visible = [.str "about"] ∧
      (s.navigateTo (.list [])).1 = some .wrongKind ∧
      (s.navigateTo (.list [])).2.document.visible = [] := by
  intro s
  have hdocument : Document.ofProject (trapdoor (.str "about")) = .ok chimeDocument := by
    decide +kernel
  have honly : OnlyKeys (trapdoor (.str "about")) [.tick] := by
    refine ⟨fun element helement graphs hgraphs graph hgraph node hnode hkind => ?_, ?_⟩
    · obtain rfl : element = chimeElement ["leave"] := List.mem_singleton.1 helement
      have hscripts : (chimeElement ["leave"]).graphs (trapdoor (.str "about")) =
          .ok [leavingScript (.str "about")] := by decide +kernel
      obtain rfl := Except.ok.inj (hscripts.symm.trans hgraphs)
      obtain rfl := List.mem_singleton.1 hgraph
      rcases List.mem_pair.1 hnode with rfl | rfl <;> decide
    · intro input hinput page hpage
      obtain rfl := List.mem_singleton.1 hinput
      cases hpage
  obtain ⟨-, hlaw, hvisible⟩ :=
    visible_pages (s := s) (by decide) (by decide) hdocument (by simp) rfl
  have hpage : s.state.page = .str "about" := by decide +kernel
  obtain ⟨hfault, -, hhidden⟩ := (hlaw (.list [])).refuses (by rw [hpage]; rfl) rfl
  exact ⟨hpage, hpage ▸ hvisible honly, hfault, hhidden⟩

/-- **A tick can hide the page that it goes on to show**: the page to which a script leads is a
list. -/
theorem trapdoor_hides_page :
    ¬∀ (project : Project) (document : Document) (dispatcher : Dispatcher) (samples : Nat → Float)
      (clock : Clock) (inputs : List Input) (s : Session), project.pages ≠ [] →
      (∀ page ∈ project.pages, page.id ≠ "") → Document.ofProject project = .ok document →
      .navigateTo .null ∉ inputs →
      (receiveAll inputs (new project document dispatcher samples clock)).2 = s →
      s.document.visible = [s.state.page] := by
  intro hall
  have hdocument : Document.ofProject (trapdoor (.list [.str "about"])) = .ok chimeDocument := by
    decide +kernel
  let s := (receiveAll [.tick] (trapdoorStart (.list [.str "about"]))).2
  have hvisible : s.document.visible = [s.state.page] :=
    hall (trapdoor (.list [.str "about"])) chimeDocument (.new [.recorder] false) (fun _ => 0.5)
      ⟨0, 1, []⟩ [.tick] s (by decide) (by decide) hdocument (by simp) rfl
  have hhidden : s.document.visible = [] := by decide +kernel
  rw [hhidden] at hvisible
  cases hvisible

end Session

end DesignGraph
