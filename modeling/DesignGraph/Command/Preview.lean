import DesignGraph.Command.Basic
import DesignGraph.Live.Session
import DesignGraph.Report.Basic
import DesignGraph.Screen.Grid
import DesignGraph.Text.Literal
/-!
# Previews

A project is run for a number of frames without a screen. What its page looks like then, and the
events of the run, are shown as tables.

## Main definitions

* `DesignGraph.Command.showPreview` — runs a project and shows the result.
-/

namespace DesignGraph.Command

/-- The width of the screen that tables are made for. -/
def screenWidth : Nat := 80

/-- How much of a text fits a table of elements. -/
def cellLength : Int := 40

/-- The line of a table about an element of the page; elements that have left the document have
none. -/
def elementRow? (s : Session) (element : Element) : Option (List String) :=
  (s.document.element? element.id).map fun live =>
    [element.id, element.kind, Report.excerpt cellLength (.str live.text),
      Report.excerpt cellLength live.animation]

/-- The elements of the page that is shown. -/
def elementGrid (s : Session) (ticks : Nat) : Screen.Grid where
  title := "Page " ++ s.state.page.display ++ " after " ++ toString ticks ++ " ticks"
  headers := ["Element", "Type", "Text", "Animation"]
  rows := (s.project.elementsOn s.state.page).filterMap (elementRow? s)

/-- The line of a table about an event: an action with its element, or a change of the page. -/
def eventRow? (event : Event) : Option (List String) :=
  match event.origin?, event with
  | some origin, _ =>
    let element := if origin.element.isFilled then origin.element.display else Report.missing
    some [event.kindName, element,
      Report.excerpt Report.excerptLength (.obj event.payload)]
  | none, .pageChanged previous next =>
    some ["PAGE", Report.missing, previous.display ++ " -> " ++ next.display]
  | none, _ => none

/-- The events of a run. -/
def eventGrid (rows : List (List String)) : Screen.Grid where
  title := "Events"
  headers := ["Event", "Element", "Details"]
  rows := rows

/-- A session of a project that has not started. -/
def newSession (project : Project) (document : Document) : Session :=
  .new project document (.new [.recorder] false) Composition.halves ⟨0, 0, []⟩

/-- The frame rate of a run: the given one, unless it is missing or zero. -/
def frameRate (host : Host) (fps : Option Float) : Except Fault Float :=
  match fps.filter fun x => !(x == 0) with
  | some x => .ok x
  | none => do return (← Settings.load host.files host.folder).fps

/-- Runs a project and shows the result. -/
def showPreview (host : Host) (project : Project) (frames : Int) (fps : Option Float) :
    Except Fault Result := do
  let document ← Document.ofProject project
  let fps ← frameRate host fps
  let (ticks, s) := (newSession project document).run (some frames) (.float fps) none
  let ticks ← ticks
  let (fault, s) := s.close
  if let some fault := fault then .error fault
  let elements ← (elementGrid s ticks).render screenWidth
  let rows := (heard s.dispatcher.journal 0).filterMap eventRow?
  let events ← if rows.isEmpty then pure [] else (eventGrid rows).render screenWidth
  return .printed (elements ++ events)

end DesignGraph.Command
