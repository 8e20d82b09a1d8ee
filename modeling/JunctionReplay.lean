import JunctionReplay.Approach
import JunctionReplay.Clock
import JunctionReplay.CommandLine.Options
import JunctionReplay.CommandLine.Program
import JunctionReplay.CommandLine.Report
import JunctionReplay.Comparison
import JunctionReplay.Decimal.Binary
import JunctionReplay.Decimal.Digits
import JunctionReplay.Decimal.Literal
import JunctionReplay.Decimal.Written
import JunctionReplay.Exchange
import JunctionReplay.Fault
import JunctionReplay.FileTree
import JunctionReplay.Frame
import JunctionReplay.FrameMeter
import JunctionReplay.FrameWindow
import JunctionReplay.Json.Document
import JunctionReplay.Json.Failure
import JunctionReplay.Json.Number
import JunctionReplay.Json.Pretty
import JunctionReplay.Json.Schema
import JunctionReplay.Json.Value
import JunctionReplay.Keyed
import JunctionReplay.Log
import JunctionReplay.Main
import JunctionReplay.Metrics
import JunctionReplay.Network
import JunctionReplay.Overlay
import JunctionReplay.Pace
import JunctionReplay.Payload.Assembly
import JunctionReplay.Payload.Read
import JunctionReplay.Payload.Records
import JunctionReplay.Payload.SignalIndex
import JunctionReplay.Pose
import JunctionReplay.Proofs.CommandLine.FastRun
import JunctionReplay.Proofs.CommandLine.Preparation
import JunctionReplay.Proofs.Comparison.Independence
import JunctionReplay.Proofs.Exchange.Answers
import JunctionReplay.Proofs.Exchange.HandOver
import JunctionReplay.Proofs.Exchange.Pending
import JunctionReplay.Proofs.Exchange.Progress
import JunctionReplay.Proofs.Exchange.Runs
import JunctionReplay.Proofs.Json.Edits
import JunctionReplay.Proofs.Json.Fields
import JunctionReplay.Proofs.Json.Numbers
import JunctionReplay.Proofs.Json.Schema
import JunctionReplay.Proofs.Json.WellFormed
import JunctionReplay.Proofs.Keyed
import JunctionReplay.Proofs.Payload.Connections
import JunctionReplay.Proofs.Payload.Forms
import JunctionReplay.Proofs.Payload.LightCycles
import JunctionReplay.Proofs.Payload.Loading
import JunctionReplay.Proofs.Payload.Places
import JunctionReplay.Proofs.Payload.SignalIndex
import JunctionReplay.Proofs.Payload.Stores
import JunctionReplay.Proofs.Payload.Tolerance
import JunctionReplay.Proofs.Payload.VehicleSamples
import JunctionReplay.Proofs.Run.End
import JunctionReplay.Proofs.Run.ExactCopies
import JunctionReplay.Proofs.Run.ExactStart
import JunctionReplay.Proofs.Run.Frames
import JunctionReplay.Proofs.Run.Start
import JunctionReplay.Proofs.Scalar.Arithmetic
import JunctionReplay.Proofs.Scalar.ExactValue
import JunctionReplay.Proofs.Scalar.MachineOrder
import JunctionReplay.Proofs.Scalar.Monotone
import JunctionReplay.Proofs.Scalar.Order
import JunctionReplay.Proofs.Scalar.Reciprocal
import JunctionReplay.Proofs.Scalar.Remainder
import JunctionReplay.Proofs.Scalar.RoundedNumbers
import JunctionReplay.Proofs.Scalar.Rounding
import JunctionReplay.Proofs.Scene.Bounds
import JunctionReplay.Proofs.Session.ElapsedTime
import JunctionReplay.Proofs.Session.End
import JunctionReplay.Proofs.Session.Headings
import JunctionReplay.Proofs.Session.OmittedVehicle
import JunctionReplay.Proofs.Session.Poses
import JunctionReplay.Proofs.Session.Progress
import JunctionReplay.Proofs.Session.Replay
import JunctionReplay.Proofs.Session.Restart
import JunctionReplay.Proofs.Session.Runs
import JunctionReplay.Proofs.Session.Signals
import JunctionReplay.Proofs.Session.Speed
import JunctionReplay.Proofs.Settings.Accepted
import JunctionReplay.Proofs.Settings.FrameDelta
import JunctionReplay.Proofs.Settings.Numbers
import JunctionReplay.Proofs.Settings.Playback
import JunctionReplay.Proofs.Signal.ApproachColors
import JunctionReplay.Proofs.Signal.EdgeColors
import JunctionReplay.Proofs.Signal.LaneColors
import JunctionReplay.Proofs.Signal.PhaseTimes
import JunctionReplay.Proofs.Signal.Schedule
import JunctionReplay.Proofs.Signal.StandardColors
import JunctionReplay.Proofs.Signal.StandardCycle
import JunctionReplay.Proofs.Text.Numerals
import JunctionReplay.Proofs.Trajectory.Normalize
import JunctionReplay.Proofs.Trajectory.TimeOrder
import JunctionReplay.Proofs.Trajectory.Times
import JunctionReplay.Run
import JunctionReplay.Scalar
import JunctionReplay.Scalar.Exact
import JunctionReplay.Scalar.Machine
import JunctionReplay.Scene.Bounds
import JunctionReplay.Scene.KeyStream
import JunctionReplay.Scene.Road
import JunctionReplay.Scene.SignalHead
import JunctionReplay.Scene.VehicleColors
import JunctionReplay.Session
import JunctionReplay.Settings
import JunctionReplay.Settings.Document
import JunctionReplay.Shape
import JunctionReplay.Signal.Color
import JunctionReplay.Signal.Cycle
import JunctionReplay.Signal.Resolve
import JunctionReplay.Signal.Schedule
import JunctionReplay.Store
import JunctionReplay.Text.CharacterClass
import JunctionReplay.Text.Numeral
import JunctionReplay.Text.Quoted
import JunctionReplay.TextFile
import JunctionReplay.Toml.Document
import JunctionReplay.Toml.Excerpt
import JunctionReplay.Toml.Moment
import JunctionReplay.Toml.Number
import JunctionReplay.Toml.Place
import JunctionReplay.Toml.Table
import JunctionReplay.Toml.Text
import JunctionReplay.Toml.Value
import JunctionReplay.Trajectory
import JunctionReplay.Trajectory.Normalize
import JunctionReplay.Word
import JunctionReplay.Proofs.Scalar.WholeNumbers
import JunctionReplay.Proofs.Scene.Lanes
import JunctionReplay.Proofs.FrameWindow
import JunctionReplay.Proofs.Run.Reports
import JunctionReplay.Proofs.Scene.SignalHeads
