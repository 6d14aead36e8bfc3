import DesignGraph.Files.Basic
import DesignGraph.Text.Numeral
import DesignGraph.Toml.Reader
/-!
# Settings

The defaults of the commands, which a section of the nearest settings file overrides: the file in
the folder of the command, or else in the first folder above it that has one.

## Main definitions

* `DesignGraph.Settings` — the defaults.
* `DesignGraph.Settings.find?` — the nearest settings file.
* `DesignGraph.Settings.load` — the settings for a folder.
-/

namespace DesignGraph

/-- The defaults of the commands. -/
structure Settings where
  /-- The frame rate of previews. -/
  fps : Float
  /-- The file that exports write, null for none; settings may hold a value of any kind. -/
  output : Value

namespace Settings

/-- The settings where nothing is configured. -/
def standard : Settings := ⟨60, .null⟩

/-- The name of settings files. -/
def fileName : String := "pyproject.toml"

/-- The places of the settings files that count for a folder, the nearest one first. -/
def places (folder : Location) : List Location :=
  folder.ancestors.map (· ++ [fileName])

/-- The nearest settings file. -/
def find? (files : Files) (folder : Location) : Option Location :=
  (places folder).find? fun place => (files.text? place).isSome

/-- The frame rate that an item gives: a number, a truth value or the text of a number. -/
def rate : Toml.Item → Except Fault Float
  | .int i => Double.ofInt i
  | .float x => .ok x
  | .bool b => .ok (if b then 1 else 0)
  | .text s =>
    match Numeral.double? s with
    | some x => .ok x
    | none => .error .malformed
  | .moment _ | .list _ | .table _ => .error .wrongKind

/-- The section of a document that holds the settings. -/
def section? (entries : Toml.Entries) : Except Fault (Option Toml.Entries) :=
  match Fields.get? entries "tool" with
  | none => .ok none
  | some (.table tools) =>
    match Fields.get? tools "stylegraph" with
    | none => .ok none
    | some (.table entries) => .ok (some entries)
    | some item => if item.isFilled then .error .noMember else .ok none
  | some _ => .error .noMember

/-- The settings of a section. -/
def ofSection (entries : Toml.Entries) : Except Fault Settings := do
  let fps ← match Fields.get? entries "fps" with
    | some item => rate item
    | none => .ok standard.fps
  return ⟨fps, ((Fields.get? entries "output").map Toml.Item.toValue).getD .null⟩

/-- The settings of a document. -/
def ofText (text : String) : Except Fault Settings :=
  match Toml.read? text with
  | none => .error .badSettings
  | some entries => do
    match ← section? entries with
    | some entries => ofSection entries
    | none => return standard

/-- The settings for a folder. -/
def load (files : Files) (folder : Location) : Except Fault Settings :=
  match (find? files folder).bind files.text? with
  | some text => ofText text
  | none => .ok standard

end Settings

end DesignGraph
