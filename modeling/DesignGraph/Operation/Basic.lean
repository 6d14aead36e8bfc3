import DesignGraph.Operation.Program
import DesignGraph.Operation.Arithmetic
import DesignGraph.Coercion
import DesignGraph.Graph.Basic
/-!
# Operations

The program of every node kind. Inputs are read lazily and in a fixed order, which decides what is
evaluated at all, in which order samples are drawn and where a cycle is cut.

## Main definitions

* `DesignGraph.Operation.ofKind` — the program of a built-in kind.
* `DesignGraph.Node.program` — the program of a node; unknown kinds hand out their literal.
-/

namespace DesignGraph.Operation

open Coercion

/-! ## Requests and coercions -/

/-- The signal on a socket. -/
def signal (socket : String) : Program Signal :=
  .request (.read socket)

/-- The value on a socket. -/
def value (socket : String) : Program Value := do
  return (← signal socket).value

/-- The value on a socket as a number. -/
def plainNumber (socket : String) : Program Float := do
  .ofExcept (toNumber (← value socket))

/-- The value on a socket as a number, with a default for values that count as false. -/
def operand (socket : String) (default : Float) : Program Float := do
  .ofExcept (numberOr (← value socket) (.float default))

/-- The value on a socket as a truth value. -/
def flag (socket : String) : Program Bool := do
  .ofExcept (truthy (← value socket))

/-- The value on a socket as a text, empty for values that count as false. -/
def words (socket : String) : Program String := do
  return toText (← .ofExcept (orDefault (← value socket) (.str "")))

/-- A divisor: one when nothing is there, else the value as a number. -/
def divisor (socket : String) : Program Float := do
  match ← value socket with
  | .null => return 1
  | v => .ofExcept (toNumber v)

/-! ## Shapes of programs -/

/-- A number made from one operand. -/
def unary (f : Float → Float) : Program Value := do
  return .float (f (← operand "in-a" 0))

/-- A number made from two operands. -/
def binary (f : Float → Float → Float) (defaultB : Float) : Program Value := do
  let a ← operand "in-a" 0
  let b ← operand "in-b" defaultB
  return .float (f a b)

/-- A truth value made from two numbers. -/
def compare (f : Float → Float → Bool) : Program Value := do
  let a ← plainNumber "in-a"
  let b ← plainNumber "in-b"
  return .bool (f a b)

/-- Division in the wide sense: the divisor is read first, and zero divides to the integer zero
before the dividend is looked at. -/
def divideBy (f : Float → Float → Float) : Program Value := do
  let d ← divisor "in-b"
  if Arithmetic.isZero d then return .int 0
  return .float (f (← operand "in-a" 0) d)

/-- Whether the signals on both sockets are loosely equal. -/
def equality : Program Bool := do
  let a ← signal "in-a"
  let b ← signal "in-b"
  .ofExcept (looseEquals (a.maker == b.maker) a.value b.value)

/-! ## Kinds with a program of their own -/

/-- The elapsed time, scaled. -/
def timer : Program Value := do
  let time ← .request .time
  let speed ← operand "in-speed" 1
  match time with
  | .float t => return .float (t * speed)
  | .nan _ => return .float (Double.nan * speed)
  | .int i => return .float ((← .ofExcept (Double.ofInt i)) * speed)
  | .bool b => return .float ((if b then 1 else 0) * speed)
  | _ => .fail .wrongKind

/-- A style with the entries that are wired to something other than null. -/
def style : Program Value := do
  let background ← value "in-bg"
  let color ← value "in-text"
  let size ← value "in-size"
  let entries := [("backgroundColor", background), ("color", color), ("fontSize", size)]
  return .obj (entries.filter fun entry => entry.2 ≠ .null)

/-- The text of a duration. -/
def seconds (x : Float) : String :=
  DigitLayout.browser.number x ++ "s"

/-- A style that plays an animation: none while a wired trigger counts as false. -/
def animation (literal : Value) : Program Value := do
  let wired ← .request (.isWired "in-trigger")
  let runs ← if wired then flag "in-trigger" else pure true
  if !runs then return .obj [("animation", .str "none")]
  let name := toText (← .ofExcept (orDefault literal (.str "fadeIn")))
  let duration ← operand "in-duration" 1
  let delay ← operand "in-delay" 0
  let times := if Catalog.loopingAnimations.contains name then "infinite" else "1"
  return .obj [("animation", .str (name ++ " " ++ seconds duration ++ " ease-in-out " ++
    seconds delay ++ " " ++ times ++ " both"))]

/-- A style that eases every change. -/
def transition : Program Value := do
  let duration ← operand "in-duration" 0.3
  let delay ← operand "in-delay" 0
  return .obj [("transition", .str ("all " ++ seconds duration ++ " ease-in-out " ++
    seconds delay))]

/-- The entries of two styles, the second over the first; what is no style has no entries. -/
def mergeStyles (a b : Value) : Value :=
  .obj (Fields.merge (Fields.merge [] a.fields) b.fields)

/-- Two styles merged. -/
def merge : Program Value := do
  let a ← value "in-style-a"
  let b ← value "in-style-b"
  return mergeStyles a b

/-- Fires when the trigger rises and the payload counts as true. -/
def fireOn (trigger payload : Value) (action : Program Action) : Program Value := do
  if ← .request (.edge trigger) then
    if ← .ofExcept (truthy payload) then
      .request (.fire (← action))
  return .null

/-- Asks for the page that the literal names. -/
def navigate (literal : Value) : Program Value := do
  let trigger ← value "in-trigger"
  fireOn trigger literal (return .navigate literal)

/-- Opens a link; the literal is the address where none is wired, and the node's own choice of a
new tab counts where none is wired. -/
def link (literal newTab : Value) : Program Value := do
  let trigger ← value "in-trigger"
  let url ← .ofExcept (orDefault (← value "in-url") literal)
  let wiredTab ← value "in-new-tab"
  let tab := if wiredTab = .null then newTab else wiredTab
  fireOn trigger url do
    return .link (toText url) (← .ofExcept (truthy tab))

/-- Shows a message; the literal is the message where none is wired. -/
def alert (literal : Value) : Program Value := do
  let trigger ← value "in-trigger"
  let message ← .ofExcept (orDefault (← value "in-message") literal)
  fireOn trigger message (return .alert (toText message))

/-- Hands on one of two inputs. -/
def choose : Program Signal := do
  if ← flag "in-condition" then signal "in-true" else signal "in-false"

/-! ## All kinds -/

/-- A program whose result is a value of the node's own. -/
def making (program : Program Value) : Program Outcome := do
  return .made (← program)

/-- The program of a node of the given kind with the given data. -/
def ofKind (kind : Kind) (node : Node) : Program Outcome :=
  match kind with
  | .text | .color | .number | .toggle => return .made node.literal
  | .equal => making do return .bool (← equality)
  | .notEqual => making do return .bool (!(← equality))
  | .greaterThan => making (compare fun a b => a > b)
  | .lessThan => making (compare fun a b => a < b)
  | .greaterEqual => making (compare fun a b => a ≥ b)
  | .lessEqual => making (compare fun a b => a ≤ b)
  | .and => making do
    if ← flag "in-a" then return .bool (← flag "in-b") else return .bool false
  | .or => making do
    if ← flag "in-a" then return .bool true else return .bool (← flag "in-b")
  | .not => making do return .bool (!(← flag "in-a"))
  | .add => making (binary (· + ·) 0)
  | .subtract => making (binary (· - ·) 0)
  | .multiply => making (binary (· * ·) 0)
  | .divide => making (divideBy (· / ·))
  | .modulo => making (divideBy Double.remainder)
  | .power => making (binary Arithmetic.power 1)
  | .negate => making (unary (-·))
  | .abs => making (unary Float.abs)
  | .round => making (unary Double.roundHalfUp)
  | .floor => making (unary Double.floor)
  | .ceil => making (unary Double.ceil)
  | .min => making (binary Arithmetic.least 0)
  | .max => making (binary Arithmetic.greatest 0)
  | .clamp => making do
    let v ← operand "in-value" 0
    let low ← operand "in-min" 0
    let high ← operand "in-max" 1
    return .float (Arithmetic.least (Arithmetic.greatest v low) high)
  | .mapRange => making do
    let v ← operand "in-value" 0
    let inMin ← operand "in-in-min" 0
    let inMax ← operand "in-in-max" 1
    let outMin ← operand "in-out-min" 0
    let outMax ← operand "in-out-max" 1
    return .float (Arithmetic.mapRange v inMin inMax outMin outMax)
  | .random => making do return .float (← .request .sample)
  | .sin => making (unary Arithmetic.sine)
  | .cos => making (unary Arithmetic.cosine)
  | .concat => making do
    let a ← words "in-a"
    let b ← words "in-b"
    return .str (a ++ b)
  | .hover => making do return .bool (← .request .hovered)
  | .click => making do return .bool (← .request .clicked)
  | .timer => making timer
  | .ifElse => return .passed (← choose)
  | .style => making style
  | .animation => making (animation node.literal)
  | .transition => making transition
  | .merge => making merge
  | .navigate => making (navigate node.literal)
  | .link => making (link node.literal (Fields.get node.data "newTab"))
  | .alert => making (alert node.literal)
  | .output => return .made .null

end DesignGraph.Operation

namespace DesignGraph

/-- The program of a node. A node of unknown kind has its literal as value. -/
def Node.program (node : Node) : Program Outcome :=
  match node.kind? with
  | some kind => Operation.ofKind kind node
  | none => .done (.made node.literal)

end DesignGraph
