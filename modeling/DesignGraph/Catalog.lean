/-!
# Catalog of node kinds

The closed catalog of built-in node kinds: their names, categories and input sockets, the short
names accepted on load, and the animations that loop.

## Main definitions

* `DesignGraph.Kind` — the built-in kinds.
* `DesignGraph.Kind.ofName?` — the kind with a given name.
* `DesignGraph.Catalog.canonicalName` — short names resolved.
* `DesignGraph.Catalog.loopingAnimations` — animations that repeat without end.
-/

namespace DesignGraph

/-- What a node kind is for. -/
inductive Category where
  | literal
  | comparison
  | boolean
  | arithmetic
  | trig
  | string
  | context
  | control
  | style
  | action
  | terminal
  deriving DecidableEq, Repr

/-- The name of a category. -/
def Category.name : Category → String
  | .literal => "literal"
  | .comparison => "comparison"
  | .boolean => "boolean"
  | .arithmetic => "arithmetic"
  | .trig => "trig"
  | .string => "string"
  | .context => "context"
  | .control => "control"
  | .style => "style"
  | .action => "action"
  | .terminal => "terminal"

/-- A built-in node kind. -/
inductive Kind where
  | text | color | number | toggle
  | equal | notEqual | greaterThan | lessThan | greaterEqual | lessEqual
  | and | or | not
  | add | subtract | multiply | divide | modulo | power | negate | abs | round | floor | ceil
  | min | max | clamp | mapRange | random
  | sin | cos
  | concat
  | hover | click | timer
  | ifElse
  | style | animation | transition | merge
  | navigate | link | alert
  | output
  deriving DecidableEq, Repr

namespace Kind

/-- The kinds in catalog order. -/
def all : List Kind :=
  [.text, .color, .number, .toggle, .equal, .notEqual, .greaterThan, .lessThan, .greaterEqual,
   .lessEqual, .and, .or, .not, .add, .subtract, .multiply, .divide, .modulo, .power, .negate,
   .abs, .round, .floor, .ceil, .min, .max, .clamp, .mapRange, .random, .sin, .cos, .concat,
   .hover, .click, .timer, .ifElse, .style, .animation, .transition, .merge, .navigate, .link,
   .alert, .output]

/-- The name of a kind in snapshots. -/
def name : Kind → String
  | .text => "TEXT"
  | .color => "COLOR"
  | .number => "NUMBER"
  | .toggle => "TOGGLE"
  | .equal => "EQUAL"
  | .notEqual => "NOT_EQUAL"
  | .greaterThan => "GREATER_THAN"
  | .lessThan => "LESS_THAN"
  | .greaterEqual => "GREATER_EQUAL"
  | .lessEqual => "LESS_EQUAL"
  | .and => "AND"
  | .or => "OR"
  | .not => "NOT"
  | .add => "ADD"
  | .subtract => "SUBTRACT"
  | .multiply => "MULTIPLY"
  | .divide => "DIVIDE"
  | .modulo => "MODULO"
  | .power => "POWER"
  | .negate => "NEGATE"
  | .abs => "ABS"
  | .round => "ROUND"
  | .floor => "FLOOR"
  | .ceil => "CEIL"
  | .min => "MIN"
  | .max => "MAX"
  | .clamp => "CLAMP"
  | .mapRange => "MAP_RANGE"
  | .random => "RANDOM"
  | .sin => "SIN"
  | .cos => "COS"
  | .concat => "CONCAT"
  | .hover => "INTERACTION_HOVER"
  | .click => "INTERACTION_CLICK"
  | .timer => "TIMER"
  | .ifElse => "IF_ELSE"
  | .style => "STYLE"
  | .animation => "ANIMATION"
  | .transition => "TRANSITION"
  | .merge => "MERGE"
  | .navigate => "NAVIGATE"
  | .link => "LINK"
  | .alert => "ALERT"
  | .output => "OUTPUT"

/-- The kind with the given name. -/
def ofName? (name : String) : Option Kind :=
  all.find? (·.name == name)

/-- The category of a kind. -/
def category : Kind → Category
  | .text | .color | .number | .toggle => .literal
  | .equal | .notEqual | .greaterThan | .lessThan | .greaterEqual | .lessEqual => .comparison
  | .and | .or | .not => .boolean
  | .add | .subtract | .multiply | .divide | .modulo | .power | .negate | .abs | .round | .floor
  | .ceil | .min | .max | .clamp | .mapRange | .random => .arithmetic
  | .sin | .cos => .trig
  | .concat => .string
  | .hover | .click | .timer => .context
  | .ifElse => .control
  | .style | .animation | .transition | .merge => .style
  | .navigate | .link | .alert => .action
  | .output => .terminal

/-- The input sockets that a kind reads. -/
def sockets : Kind → List String
  | .text | .color | .number | .toggle | .random | .hover | .click => []
  | .equal | .notEqual | .greaterThan | .lessThan | .greaterEqual | .lessEqual | .and | .or
  | .add | .subtract | .multiply | .divide | .modulo | .power | .min | .max | .concat =>
    ["in-a", "in-b"]
  | .not | .negate | .abs | .round | .floor | .ceil | .sin | .cos => ["in-a"]
  | .clamp => ["in-value", "in-min", "in-max"]
  | .mapRange => ["in-value", "in-in-min", "in-in-max", "in-out-min", "in-out-max"]
  | .timer => ["in-speed"]
  | .ifElse => ["in-condition", "in-true", "in-false"]
  | .style => ["in-bg", "in-text", "in-size"]
  | .animation => ["in-trigger", "in-duration", "in-delay"]
  | .transition => ["in-duration", "in-delay"]
  | .merge => ["in-style-a", "in-style-b"]
  | .navigate => ["in-trigger"]
  | .link => ["in-trigger", "in-url", "in-new-tab"]
  | .alert => ["in-trigger", "in-message"]
  | .output => ["in-style", "in-content"]

/-- Kinds that act on the outside: they navigate, open a link or show an alert. -/
def isAction (kind : Kind) : Bool :=
  kind.category == .action

/-- Kinds whose value is their own literal. -/
def isLiteral (kind : Kind) : Bool :=
  kind.category == .literal

/-- Every kind is in the catalog. -/
theorem mem_all (kind : Kind) : kind ∈ all := by
  cases kind <;> decide

/-- The name of a kind names no other kind. -/
theorem ofName?_name (kind : Kind) : ofName? kind.name = some kind := by
  cases kind <;> decide

end Kind

namespace Catalog

/-- Short names that snapshots may use, each with the name that it stands for. -/
def shortNames : List (String × String) :=
  [("GT", "GREATER_THAN"), ("LT", "LESS_THAN"), ("GTE", "GREATER_EQUAL"), ("LTE", "LESS_EQUAL"),
   ("SUB", "SUBTRACT"), ("MUL", "MULTIPLY"), ("HOVER", "INTERACTION_HOVER"),
   ("CLICK", "INTERACTION_CLICK")]

/-- The full name for a short one; every other name stands for itself. -/
def canonicalName (name : String) : String :=
  (shortNames.lookup name).getD name

/-- Whether a name, short or full, belongs to a built-in kind. -/
def isKnown (name : String) : Bool :=
  (Kind.ofName? (canonicalName name)).isSome

/-- Animations that repeat without end; every other one plays once. -/
def loopingAnimations : List String :=
  ["bounce", "pulse", "shake", "spin"]

/-- Resolving a name twice is resolving it once. -/
theorem canonicalName_canonicalName (name : String) :
    canonicalName (canonicalName name) = canonicalName name := by
  simp only [canonicalName, shortNames, List.lookup_cons, List.lookup_nil]
  repeat' split
  all_goals simp_all

end Catalog

end DesignGraph
