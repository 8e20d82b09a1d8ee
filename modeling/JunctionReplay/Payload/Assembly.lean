import JunctionReplay.Decimal.Written
import JunctionReplay.Log
import JunctionReplay.Payload.Records
import JunctionReplay.Payload.SignalIndex
import JunctionReplay.Scalar.Machine
import JunctionReplay.Signal.Cycle
import JunctionReplay.Trajectory.Normalize

/-!
# From records to a store

Records are tolerant, a store is not.  Connections without a usable signal index are dropped,
samples are brought into order, and a light without usable phases runs through the standard cycle
of the connections that are left.

`assemble` builds the store, and `assemblyNotes` tells what was put right on the way.
-/

namespace JunctionReplay.Payload

namespace NodeRecord

/-- The node of the road network. -/
def toNode (record : NodeRecord) : RoadNode Float :=
  ⟨record.id, record.x, record.y, record.kind⟩

end NodeRecord

namespace EdgeRecord

/-- The edge of the road network. -/
def toEdgeOfNetwork (record : EdgeRecord) : RoadEdge Float :=
  ⟨record.id, record.fromNode, record.toNode, record.speed, record.lanes⟩

end EdgeRecord

namespace ConnectionRecord

/-- The index of the signal of a connection. -/
def signalIndex? (record : ConnectionRecord) : Option Nat :=
  record.signal.bind indexOfValue?

/-- The connection, if it has a usable signal index. -/
def toConnection? (record : ConnectionRecord) : Option LaneConnection :=
  record.signalIndex?.map fun index =>
    ⟨record.fromEdge, record.toEdge, record.fromLane, record.toLane, index⟩

/-- The note on a connection that is dropped. -/
def note? (record : ConnectionRecord) : Option Log.Line :=
  match record.signalIndex? with
  | some _ => none
  | none =>
    some <| Log.warn <|
      "Dropping connection " ++ record.fromEdge ++ " -> " ++ record.toEdge ++
        ": missing or invalid signal index"

end ConnectionRecord

namespace VehicleRecord

/-- The samples as they were recorded. -/
def samples (record : VehicleRecord) : List (Sample Float) :=
  record.positions.map fun position => ⟨position.time, position.x, position.y, position.speed⟩

/-- The trajectory, with its samples in order. -/
def toTrajectory (record : VehicleRecord) : Trajectory Float :=
  ⟨record.id, Trajectory.normalize record.samples⟩

/-- The note on a vehicle whose samples were not in order. -/
def note? (record : VehicleRecord) : Option Log.Line :=
  if Trajectory.isOrdered (Trajectory.timed record.samples) then none
  else some <| Log.warn <| "Vehicle " ++ record.id ++ " has out-of-order samples; sorting"

end VehicleRecord

namespace PhaseRecord

/-- The phase, if it has a positive duration and a state. -/
def toPhase? (record : PhaseRecord) : Option (Phase Float) :=
  match record.state with
  | some state =>
    if 0.0 < record.duration ∧ state ≠ "" then some ⟨record.duration, state⟩ else none
  | none => none

end PhaseRecord

namespace LightRecord

/-- The recorded phases, if there are any and all of them are usable. -/
def ownPhases? (record : LightRecord) : Option (List (Phase Float)) :=
  if record.phases.isEmpty then none else record.phases.mapM PhaseRecord.toPhase?

/-- The phases of a light: its own ones, or else those of the standard cycle. -/
def shownPhases (record : LightRecord) (connections : List LaneConnection) (directions : Directions)
    (timing : CycleTiming Float) : Except Fault (List (Phase Float)) :=
  match record.ownPhases? with
  | some phases => .ok phases
  | none => StandardCycle.phases connections directions timing

/-- The light with its schedule. -/
def toLight (connections : List LaneConnection) (directions : Directions)
    (timing : CycleTiming Float) (record : LightRecord) : Except Fault (TrafficLight Float) :=
  (record.shownPhases connections directions timing).map fun phases =>
    ⟨record.id, phases, Schedule.ofPhases phases⟩

/-- The notes on a light that runs through the standard cycle, or that no road leads to. -/
def notes (connections : List LaneConnection) (timing : CycleTiming Float)
    (record : LightRecord) : List Log.Line :=
  (match record.ownPhases? with
    | some _ => []
    | none =>
      [ Log.debug <|
          "Synthesizing default signal cycle: " ++
            Decimal.natText (StandardCycle.stateLength connections timing.fallbackStateLength) ++
            " signal indices, " ++ Decimal.fixed 0 timing.cycleLength ++ "s cycle" ]) ++
  if connections.any LaneConnection.isExternal then []
  else [ Log.debug <| "Traffic light " ++ record.id ++ " has no approach connections" ]

end LightRecord

namespace OutputRecord

/-- The connections with a usable signal index. -/
def connections (output : OutputRecord) : List LaneConnection :=
  output.intersection.connections.filterMap ConnectionRecord.toConnection?

/-- The recorded lights. -/
def lights (output : OutputRecord) : List LightRecord :=
  output.intersection.lights.getD []

end OutputRecord

/-- The store of a recorded outcome and of reported figures. -/
def assemble (output : OutputRecord) (results : Option (Results Float)) (directions : Directions)
    (timing : CycleTiming Float) : Except Fault (Store Float) := do
  let lights ← output.lights.mapM (LightRecord.toLight output.connections directions timing)
  .ok
    { nodes := output.intersection.nodes.map NodeRecord.toNode
      edges := output.intersection.edges.map EdgeRecord.toEdgeOfNetwork
      vehicles := output.vehicles.map VehicleRecord.toTrajectory
      lights := lights
      connections := output.connections
      results := results }

/-- What was put right in a recorded outcome, in the order in which it is come upon. -/
def assemblyNotes (output : OutputRecord) (timing : CycleTiming Float) : List Log.Line :=
  output.intersection.connections.filterMap ConnectionRecord.note? ++
    output.vehicles.filterMap VehicleRecord.note? ++
    output.lights.flatMap (LightRecord.notes output.connections timing)

end JunctionReplay.Payload
