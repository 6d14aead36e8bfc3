import DesignGraph.Command.Basic
/-!
# Command lines

The words of a command line as a command. Options stand anywhere among the other words, with their
value in the next word or behind an equals sign; a later one wins. After a double dash every word
is an argument.

## Main definitions

* `DesignGraph.Command.Usage` — the options that a command knows.
* `DesignGraph.Command.Usage.scan?` — words sorted into arguments and options.
* `DesignGraph.Command.ofWords?` — the command that words ask for.
-/

namespace DesignGraph.Command

/-- The options that a command knows. -/
structure Usage where
  /-- Options without a value. -/
  switches : List String
  /-- Options with a value. -/
  settings : List String
  /-- The long names of options with a letter: each letter has a value. -/
  letters : List (Char × String)

/-- Sorted words. -/
structure Words where
  arguments : List String
  switches : List String
  settings : List (String × String)

namespace Words

/-- Adds an argument in front. -/
def withArgument (word : String) (words : Words) : Words :=
  { words with arguments := word :: words.arguments }

/-- Adds an option without value in front. -/
def withSwitch (name : String) (words : Words) : Words :=
  { words with switches := name :: words.switches }

/-- Adds an option with a value in front. -/
def withSetting (name value : String) (words : Words) : Words :=
  { words with settings := (name, value) :: words.settings }

/-- Whether an option without value is given. -/
def has (words : Words) (name : String) : Bool :=
  words.switches.contains name

/-- The value of an option; the last one counts. -/
def value? (words : Words) (name : String) : Option String :=
  (words.settings.reverse.find? (·.1 == name)).map Prod.snd

end Words

/-- A word in front of an equals sign, and what stands behind it. -/
def splitEquals (word : String) : String × Option String :=
  let cs := word.toList
  match cs.dropWhile (· != '=') with
  | [] => (word, none)
  | _ :: value => (String.ofList (cs.takeWhile (· != '=')), some (String.ofList value))

/-- What a single word says about an option. -/
inductive OptionWord where
  /-- The word is no option. -/
  | argument
  | switch (name : String)
  /-- An option whose value is the next word. -/
  | opened (name : String)
  | setting (name value : String)
  | unknown

/-- What a single word says about an option: a letter may have its value right behind it. -/
def Usage.classify (usage : Usage) (word : String) : OptionWord :=
  match word.toList with
  | '-' :: '-' :: _ =>
    let (name, value?) := splitEquals word
    match usage.switches.contains name, usage.settings.contains name, value? with
    | true, _, none => .switch name
    | _, true, none => .opened name
    | _, true, some value => .setting name value
    | _, _, _ => .unknown
  | '-' :: letter :: rest =>
    match usage.letters.find? (·.1 == letter), rest with
    | none, _ => .unknown
    | some (_, name), [] => .opened name
    | some (_, name), value => .setting name (String.ofList value)
  | _ => .argument

/-- Sorts words. There is nothing for words that hold an unknown option or one without its
value. -/
def Usage.scan? (usage : Usage) : List String → Option Words
  | [] => some ⟨[], [], []⟩
  | word :: rest =>
    if word = "--" then some ⟨rest, [], []⟩
    else
      match usage.classify word, rest with
      | .argument, rest => (usage.scan? rest).map (·.withArgument word)
      | .switch name, rest => (usage.scan? rest).map (·.withSwitch name)
      | .setting name value, rest => (usage.scan? rest).map (·.withSetting name value)
      | .opened name, value :: rest => (usage.scan? rest).map (·.withSetting name value)
      | .opened _, [] => none
      | .unknown, _ => none

/-- The value of an option read as a number; nothing when it is none. -/
def readSetting? {α : Type} (words : Words) (name : String) (read : String → Option α) :
    Option (Option α) :=
  match words.value? name with
  | none => some none
  | some text => (read text).map some

/-- Where the options ask for JSON. -/
def Words.json (words : Words) : JsonRequest :=
  ⟨words.has "--json", words.value? "--output"⟩

/-- The command to compose an element. -/
def composeOf? (words : List String) : Option Command := do
  let words ← Usage.scan? ⟨["--hover", "--click", "--json"], ["--time", "--output"], []⟩ words
  let time ← readSetting? words "--time" Numeral.double?
  match words.arguments with
  | [project, element] =>
    some (.compose project element (words.has "--hover") (words.has "--click") (time.getD 0)
      words.json)
  | _ => none

/-- The command to write an HTML document. -/
def pageOf? (words : List String) : Option Command := do
  let words ← Usage.scan? ⟨[], ["--output", "--title"], [('o', "--output")]⟩ words
  match words.arguments with
  | [project] =>
    some (.page project (words.value? "--output")
      ((words.value? "--title").getD "Exported Project"))
  | _ => none

/-- The command to describe a graph. -/
def inspectOf? (words : List String) : Option Command := do
  let words ← Usage.scan? ⟨["--json"], ["--output"], []⟩ words
  match words.arguments with
  | [project, graph] => some (.inspect project graph words.json)
  | _ => none

/-- The command to run a project. -/
def previewOf? (words : List String) : Option Command := do
  let words ← Usage.scan? ⟨[], ["--frames", "--fps"], []⟩ words
  let frames ← readSetting? words "--frames" Numeral.int?
  let fps ← readSetting? words "--fps" Numeral.double?
  match words.arguments with
  | [project] => some (.preview project (frames.getD 60) fps)
  | _ => none

/-- The command that words ask for, if they make sense. -/
def ofWords? : List String → Option Command
  | "eval" :: words => composeOf? words
  | "export" :: words => pageOf? words
  | "graph" :: "inspect" :: words => inspectOf? words
  | "preview" :: words => previewOf? words
  | _ => none

end DesignGraph.Command
