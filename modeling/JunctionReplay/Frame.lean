import JunctionReplay.Json.Value
import JunctionReplay.Metrics
import JunctionReplay.Pose
import JunctionReplay.Signal.Resolve

/-!
# Frames

Everything that is shown at one time: the vehicles on their way, what each side of the
intersection is signalled, and the metrics.
-/

namespace JunctionReplay

/-- What is shown at one time. -/
structure Frame (α : Type) where
  time : α
  poses : List (Pose α)
  signals : Keyed Approach Color
  metrics : Metrics α
  deriving DecidableEq, Repr

/-- The name of a color in a document. -/
def Color.name : Color → String
  | .green => "Green"
  | .yellow => "Yellow"
  | .red => "Red"

namespace Json.Value

/-- A number that need not be whole. -/
def ofReal (x : Float) : Value := .number (.real x)

/-- A number of things. -/
def ofCount (n : Nat) : Value := .number (.integer n)

end Json.Value

open Json (Value)

/-- The pose as a document. -/
def Pose.toDocument (pose : Pose Float) : Value :=
  .object
    [ ("vehicle_id", .text pose.vehicle),
      ("position", .list [.ofReal pose.position.x, .ofReal pose.position.y]),
      ("heading", .ofReal pose.heading),
      ("speed", .ofReal pose.speed) ]

/-- The metrics as a document. -/
def Metrics.toDocument (metrics : Metrics Float) : Value :=
  .object
    [ ("active_vehicles", .ofCount metrics.active),
      ("completed_vehicles", .ofCount metrics.completed),
      ("total_vehicles", .ofCount metrics.total),
      ("avg_speed", .ofReal metrics.averageSpeed),
      ("progress", .ofReal metrics.progress),
      ("total_sim_time", .ofReal metrics.totalTime) ]

/-- The frame as a document. -/
def Frame.toDocument (frame : Frame Float) : Value :=
  .object
    [ ("virtual_time", .ofReal frame.time),
      ("poses", .list (frame.poses.map Pose.toDocument)),
      ("signal_states",
        .object (frame.signals.map fun shown => (shown.1.label, .text shown.2.name))),
      ("metrics", frame.metrics.toDocument) ]

end JunctionReplay
