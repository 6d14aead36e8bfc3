import Std.Time.Format
import DesignGraph.Command.Arguments
import DesignGraph.Command.Run
/-!
# Command line

The command line of the library: the words are read as a command, the places that it looks at are
read from the disk, and what comes of the command is printed and written.

## Main definitions

* `main` — runs a command.
-/

namespace DesignGraph.CommandLine

/-- How the commands are called. -/
def usage : String :=
  "Usage: stylegraph COMMAND\n\n" ++
  "  eval PROJECT ELEMENT [--hover] [--click] [--time SECONDS] [--json] [--output FILE]\n" ++
  "  export PROJECT [--output FILE] [--title TITLE]\n" ++
  "  graph inspect PROJECT GRAPH [--json] [--output FILE]\n" ++
  "  preview PROJECT [--frames COUNT] [--fps RATE]\n"

/-- The path of a place on the disk. -/
def diskPath (location : Location) : String :=
  (Path.mk true location).text

/-- What stands at a place on the disk. -/
def readEntry (location : Location) : IO (Option Entry) := do
  try
    return some (.file (← IO.FS.readFile (diskPath location)))
  catch _ =>
    try
      let _ ← IO.FS.realPath (diskPath location)
      return some .folder
    catch _ => return none

/-- What stands at places on the disk. -/
def readEntries (places : List Location) : IO (List (Location × Option Entry)) :=
  places.mapM fun place => return (place, ← readEntry place)

/-- The files and folders among the entries that were read. -/
def filesOf (entries : List (Location × Option Entry)) : Files := fun place =>
  (entries.find? (·.1 == place)).bind Prod.snd

/-- Writes a file and makes the folders on its way. -/
def writeEntry (location : Location) (text : String) : IO Unit := do
  IO.FS.createDirAll (diskPath location.dropLast)
  IO.FS.writeFile (diskPath location) text

/-- How moments are written: to the microsecond, with the distance to universal time. -/
def momentFormat : String := "uuuu-MM-dd'T'HH:mm:ss.SSSSSSxxx"

/-- The current moment in universal time. -/
def now : IO String := do
  let moment ← Std.Time.Timestamp.now
  return (Std.Time.DateTime.ofTimestamp moment Std.Time.TimeZone.ZoneRules.UTC).format momentFormat

/-- Runs a command in the current folder and gives its exit status. -/
def runCommand (command : Command) : IO UInt32 := do
  let folder := (Path.ofText (toString (← IO.currentDir))).parts
  let entries ← readEntries (command.places folder)
  let named := match Settings.load (filesOf entries) folder with
    | .ok settings => command.settingsPlaces folder settings
    | .error _ => []
  let files := filesOf (entries ++ (← readEntries named))
  match command.run ⟨files, folder, ← now⟩ with
  | .error fault =>
    IO.eprintln ("Fault: " ++ reprStr fault)
    return 1
  | .ok result =>
    for (place, text) in result.files do
      writeEntry place text
    IO.print result.output
    return result.status.toUInt32

end DesignGraph.CommandLine

/-- Runs the command that the words of the command line ask for. -/
def main (words : List String) : IO UInt32 :=
  match DesignGraph.Command.ofWords? words with
  | some command => DesignGraph.CommandLine.runCommand command
  | none => do
    IO.eprint DesignGraph.CommandLine.usage
    return 2
