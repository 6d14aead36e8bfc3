import DesignGraph.Fault
import DesignGraph.Value.Basic
import DesignGraph.Number.Double
import DesignGraph.Number.Decimal
import DesignGraph.Text.CharRange
import DesignGraph.Text.Printable
import DesignGraph.Text.WordChar
import DesignGraph.Text.DecimalDigit
import DesignGraph.Text.Blank
import DesignGraph.Text.Hex
import DesignGraph.Value.Equality
import DesignGraph.Text.Literal
import DesignGraph.Coercion
import DesignGraph.Catalog
import DesignGraph.Graph.Basic
import DesignGraph.Graph.Structure
import DesignGraph.Graph.Cycle
import DesignGraph.Graph.Validation
import DesignGraph.Graph.Sketch
import DesignGraph.Graph.Snapshot
import DesignGraph.Action.Event
import DesignGraph.Operation.Program
import DesignGraph.Operation.Arithmetic
import DesignGraph.Operation.Basic
import DesignGraph.Action.Trigger
import DesignGraph.Action.Dispatcher
import DesignGraph.Evaluation
import DesignGraph.Number.Basic
import DesignGraph.Project.Basic
import DesignGraph.Project.Snapshot
import DesignGraph.Composition
import DesignGraph.Live.Document
import DesignGraph.Live.State
import DesignGraph.Live.Session
import DesignGraph.Web.Css
import DesignGraph.Web.Markup
import DesignGraph.Web.Video
import DesignGraph.Web.Body
import DesignGraph.Web.Data
import DesignGraph.Web.Player
import DesignGraph.Web.Document
import DesignGraph.Json.Writer
import DesignGraph.Json.Reader
import DesignGraph.Files.Path
import DesignGraph.Files.Basic
import DesignGraph.Text.Numeral
import DesignGraph.Toml.Basic
import DesignGraph.Toml.Text
import DesignGraph.Toml.Moment
import DesignGraph.Toml.Reader
import DesignGraph.Settings
import DesignGraph.Project.File
import DesignGraph.Report.Basic
import DesignGraph.Screen.CellWidth
import DesignGraph.Screen.Tag
import DesignGraph.Screen.Wrap
import DesignGraph.Screen.Grid
import DesignGraph.Command.Basic
import DesignGraph.Command.Arguments
import DesignGraph.Command.Describe
import DesignGraph.Command.Preview
import DesignGraph.Command.Run
import DesignGraph.Main
import DesignGraph.Proofs.Operation.Requests
import DesignGraph.Proofs.Graph.Component
import DesignGraph.Proofs.Evaluation.Course
import DesignGraph.Proofs.Evaluation.Cut
import DesignGraph.Proofs.Evaluation.Meaning
import DesignGraph.Proofs.Evaluation.Dialogue
import DesignGraph.Proofs.Evaluation.Action
import DesignGraph.Proofs.Live.Apply
import DesignGraph.Proofs.Live.Frame
import DesignGraph.Proofs.Live.Tracking
import DesignGraph.Proofs.Live.Pass
import DesignGraph.Proofs.Evaluation.Footprint
import DesignGraph.Proofs.Evaluation.Machine
import DesignGraph.Proofs.Evaluation.Once
import DesignGraph.Proofs.Evaluation.Display
import DesignGraph.Proofs.Evaluation.Listeners
import DesignGraph.Proofs.Composition.Calls
import DesignGraph.Proofs.Composition.Layers
import DesignGraph.Proofs.Live.Triggers
import DesignGraph.Proofs.Live.Deliveries
import DesignGraph.Proofs.Live.EventOrder
import DesignGraph.Proofs.Number.Bits
import DesignGraph.Proofs.Number.Rounding
import DesignGraph.Proofs.Number.Shortest
import DesignGraph.Proofs.Json.Numeral
import DesignGraph.Proofs.Json.Quoted
import DesignGraph.Proofs.Json.RoundTrip
import DesignGraph.Proofs.Project.Snapshot
import DesignGraph.Proofs.Project.Canonical
import DesignGraph.Proofs.Web.Data
import DesignGraph.Proofs.Evaluation.Repeat
import DesignGraph.Proofs.Live.Quiescence
import DesignGraph.Proofs.Graph.Cycles
import DesignGraph.Proofs.Graph.Validation
import DesignGraph.Proofs.Composition.Effects
import DesignGraph.Proofs.Live.Steps
import DesignGraph.Proofs.Live.Visibility
import DesignGraph.Proofs.Live.TriggerStore
import DesignGraph.Proofs.Evaluation.Faults
import DesignGraph.Proofs.Graph.Rearrangement
import DesignGraph.Proofs.Evaluation.Order
import DesignGraph.Proofs.Evaluation.Memory
import DesignGraph.Proofs.Evaluation.Muted
import DesignGraph.Proofs.Evaluation.Circular
import DesignGraph.Proofs.Web.Shield
import DesignGraph.Proofs.Web.Marks
import DesignGraph.Action.View
import DesignGraph.Proofs.Action.Rounds
import DesignGraph.Proofs.Action.Alerts
import DesignGraph.Proofs.Composition.Faults
import DesignGraph.Proofs.Number.Whole
import DesignGraph.Proofs.Project.Refusals
import DesignGraph.Proofs.Web.Boxes
import DesignGraph.Proofs.Composition.Muted
import DesignGraph.Proofs.Live.Elsewhere
import DesignGraph.Proofs.Live.Return
import DesignGraph.Proofs.Live.FirstTick
import DesignGraph.Proofs.Action.Bystanders
import DesignGraph.Proofs.Action.Interruption
import DesignGraph.Proofs.Live.Closing
import DesignGraph.Proofs.Number.Order
import DesignGraph.Proofs.Number.Comparison
import DesignGraph.Proofs.Coercion.DecimalText
import DesignGraph.Proofs.Coercion.NumericText
import DesignGraph.Proofs.Coercion.Equality
import DesignGraph.Proofs.Coercion.Writing
import DesignGraph.Proofs.Coercion.Alike
import DesignGraph.Proofs.Number.Scale
import DesignGraph.Proofs.Evaluation.Clamp
import DesignGraph.Proofs.Evaluation.Twice
import DesignGraph.Proofs.Composition.Fold
import DesignGraph.Proofs.Operation.Makers
import DesignGraph.Proofs.Evaluation.OwnValue
import DesignGraph.Proofs.Coercion.Composite
import DesignGraph.Proofs.Web.Video
import DesignGraph.Proofs.Evaluation.PostOrder
import DesignGraph.Proofs.Graph.Drawing
