import DesignGraph.Value.Basic
/-!
# Settings documents

The content of a settings file in TOML: tables whose entries are texts, numbers, truth values,
moments, lists and tables. A document is built from its statements one after the other. A key may
be written once only; a table may be opened once only, and not at all when its name was a step of
a dotted key; lists and tables written as values are closed.

## Main definitions

* `DesignGraph.Toml.Item` — what an entry holds.
* `DesignGraph.Toml.Statement` — a line of a document: an assignment or the head of a table.
* `DesignGraph.Toml.Draft` — a document that is being built.
* `DesignGraph.Toml.Draft.add?` — the document after one more statement.
-/

namespace DesignGraph.Toml

/-- What an entry of a table holds. -/
inductive Item where
  | text (s : String)
  | int (i : Int)
  | float (x : Float)
  | bool (b : Bool)
  /-- A date, a time of day or both, as it is written. -/
  | moment (s : String)
  | list (items : List Item)
  | table (entries : List (String × Item))
  deriving Inhabited, Repr

/-- The entries of a table, in the order in which they were first written. -/
abbrev Entries := List (String × Item)

/-- A dotted key. -/
abbrev Key := List String

namespace Item

mutual

/-- An item as a value; a moment is its text. -/
def toValue : Item → Value
  | .text s | .moment s => .str s
  | .int i => .int i
  | .float x => .float x
  | .bool b => .bool b
  | .list items => .list (toValues items)
  | .table entries => .obj (toFields entries)

/-- Items as values. -/
def toValues : List Item → List Value
  | [] => []
  | item :: rest => toValue item :: toValues rest

/-- Entries as fields. -/
def toFields : List (String × Item) → Fields
  | [] => []
  | (key, item) :: rest => (key, toValue item) :: toFields rest

end

/-- Whether an item is not empty, zero or false. -/
def isFilled : Item → Bool
  | .text s => s != ""
  | .int i => i != 0
  | .float x => !(x == 0)
  | .bool b => b
  | .moment _ => true
  | .list items => !items.isEmpty
  | .table entries => !entries.isEmpty

/-- Whether an item has items of its own. -/
def isNested : Item → Bool
  | .list _ | .table _ => true
  | _ => false

end Item

/-- A statement of a document. -/
inductive Statement where
  /-- An entry of the current table. -/
  | assign (key : Key) (item : Item)
  /-- The entries that follow belong to the table with this key. -/
  | openTable (key : Key)
  /-- The entries that follow belong to a new table at the end of the list with this key. -/
  | extendList (key : Key)

/-- Changes the entries of the table with the given key. Tables that are missing on the way are
made, and the way through a list leads into its last item. -/
def within? : Key → (Entries → Option Entries) → Entries → Option Entries
  | [], change, entries => change entries
  | k :: rest, change, entries =>
    match Fields.get? entries k with
    | none => (within? rest change []).map fun es => Fields.put k (.table es) entries
    | some (.table inner) =>
      (within? rest change inner).map fun es => Fields.put k (.table es) entries
    | some (.list items) =>
      match items.getLast? with
      | some (.table inner) =>
        (within? rest change inner).map fun es =>
          Fields.put k (.list (items.dropLast ++ [.table es])) entries
      | _ => none
    | some _ => none

/-- Adds an entry under a new key. -/
def insertItem? (key : String) (item : Item) (entries : Entries) : Option Entries :=
  match Fields.get? entries key with
  | none => some (Fields.put key item entries)
  | some _ => none

/-- Adds an empty table to the list under a key. -/
def addTable? (key : String) (entries : Entries) : Option Entries :=
  match Fields.get? entries key with
  | none => some (Fields.put key (.list [.table []]) entries)
  | some (.list items) => some (Fields.put key (.list (items ++ [.table []])) entries)
  | some _ => none

/-- A document that is being built. -/
structure Draft where
  entries : Entries
  /-- The key of the current table. -/
  head : Key
  /-- The keys of tables that may not be opened any more. -/
  opened : List Key
  /-- Keys that join `opened` with the next head of a table. -/
  passed : List Key
  /-- The keys of lists and tables that were written as values. -/
  closed : List Key

namespace Draft

/-- An empty document. -/
def empty : Draft := ⟨[], [], [], [], []⟩

/-- Whether a key is, or lies below, that of a list or table written as a value. -/
def isClosed (draft : Draft) (key : Key) : Bool :=
  draft.closed.any fun k => k.isPrefixOf key

/-- The keys of the tables that a dotted key passes, seen from the root. -/
def steps (draft : Draft) (key : Key) : List Key :=
  (List.range (key.length - 1)).map fun n => draft.head ++ key.take (n + 1)

/-- Adds an entry to the current table. -/
def assign? (draft : Draft) (key : Key) (item : Item) : Option Draft :=
  let steps := draft.steps key
  let parent := draft.head ++ key.dropLast
  if steps.any draft.opened.contains || draft.isClosed parent then none
  else
    (within? parent (insertItem? (key.getLastD "") item) draft.entries).map fun entries =>
      { draft with
        entries := entries
        passed := steps ++ draft.passed
        closed := if item.isNested then (draft.head ++ key) :: draft.closed else draft.closed }

/-- The document at the start of a new table. -/
def leaveTable (draft : Draft) : Draft :=
  { draft with opened := draft.passed ++ draft.opened, passed := [] }

/-- Opens a table. -/
def openTable? (draft : Draft) (key : Key) : Option Draft :=
  let draft := draft.leaveTable
  if draft.opened.contains key || draft.isClosed key then none
  else
    (within? key some draft.entries).map fun entries =>
      { draft with entries := entries, head := key, opened := key :: draft.opened }

/-- Starts a new table in a list of tables; what is known of the keys below the list concerned the
table before. -/
def extendList? (draft : Draft) (key : Key) : Option Draft :=
  let draft := draft.leaveTable
  if draft.isClosed key then none
  else
    let isBelow (k : Key) := key.isPrefixOf k
    (within? key.dropLast (addTable? (key.getLastD "")) draft.entries).map fun entries =>
      { draft with
        entries := entries
        head := key
        opened := key :: draft.opened.filter (!isBelow ·)
        closed := draft.closed.filter (!isBelow ·) }

/-- The document after one more statement. -/
def add? (draft : Draft) : Statement → Option Draft
  | .assign key item => draft.assign? key item
  | .openTable key => draft.openTable? key
  | .extendList key => draft.extendList? key

end Draft

/-- The table of the given entries, when no two of them are at odds. -/
def tableOf? (entries : List (Key × Item)) : Option Item :=
  (entries.foldlM (fun (draft : Draft) entry => draft.assign? entry.1 entry.2) Draft.empty).map
    fun (draft : Draft) => .table draft.entries

/-- The entries of the document with the given statements. -/
def entriesOf? (statements : List Statement) : Option Entries :=
  (statements.foldlM Draft.add? Draft.empty).map (·.entries)

end DesignGraph.Toml
