import JunctionReplay.Json.Schema
import JunctionReplay.Store

/-!
# Records of a payload

The shapes in which a simulation writes down what it knows, with the names and the defaults of
their fields.
-/

namespace JunctionReplay.Payload

open Json (Value Decoder RecordField record)
open Json.Decoder (real count32 text list nullable any)

/-- A recorded sample. -/
structure PositionRecord where
  time : Float
  x : Float
  y : Float
  speed : Float
  deriving Repr

/-- A recorded vehicle. -/
structure VehicleRecord where
  id : String
  positions : List PositionRecord
  deriving Repr

/-- A recorded node. -/
structure NodeRecord where
  id : String
  x : Float
  y : Float
  kind : String
  deriving Repr

/-- A recorded edge. -/
structure EdgeRecord where
  id : String
  fromNode : String
  toNode : String
  speed : Float
  lanes : Nat
  deriving Repr

/-- A recorded phase, of which duration and state may be missing. -/
structure PhaseRecord where
  duration : Float
  state : Option String
  deriving Repr

/-- A recorded traffic light. -/
structure LightRecord where
  id : String
  phases : List PhaseRecord
  deriving Repr

/-- A recorded connection; its signal may be named by any value at all. -/
structure ConnectionRecord where
  fromEdge : String
  toEdge : String
  fromLane : Nat
  toLane : Nat
  signal : Option Value
  deriving Repr

/-- A recorded intersection. -/
structure IntersectionRecord where
  nodes : List NodeRecord
  edges : List EdgeRecord
  lights : Option (List LightRecord)
  connections : List ConnectionRecord
  deriving Repr

/-- The recorded outcome of a simulation. -/
structure OutputRecord where
  vehicles : List VehicleRecord
  intersection : IntersectionRecord
  deriving Repr

namespace PositionRecord

/-- The fields of a sample. -/
def fields : List (RecordField PositionRecord) :=
  [ .required "time" real fun read record => { record with time := read },
    .required "x" real fun read record => { record with x := read },
    .required "y" real fun read record => { record with y := read },
    .optional "speed" real fun read record => { record with speed := read } ]

/-- Reads a sample. -/
def decode : Decoder PositionRecord :=
  record "RawPosition" fields ⟨0.0, 0.0, 0.0, 0.0⟩

end PositionRecord

namespace VehicleRecord

/-- The fields of a vehicle. -/
def fields : List (RecordField VehicleRecord) :=
  [ .required "id" text fun read record => { record with id := read },
    .optional "positions" (list PositionRecord.decode) fun read record =>
      { record with positions := read } ]

/-- Reads a vehicle. -/
def decode : Decoder VehicleRecord := record "RawVehicle" fields ⟨"", []⟩

end VehicleRecord

namespace NodeRecord

/-- The fields of a node. -/
def fields : List (RecordField NodeRecord) :=
  [ .required "id" text fun read record => { record with id := read },
    .required "x" real fun read record => { record with x := read },
    .required "y" real fun read record => { record with y := read },
    .optional "type" text fun read record => { record with kind := read } ]

/-- Reads a node. -/
def decode : Decoder NodeRecord := record "RawNode" fields ⟨"", 0.0, 0.0, ""⟩

end NodeRecord

namespace EdgeRecord

/-- The fields of an edge. -/
def fields : List (RecordField EdgeRecord) :=
  [ .required "id" text fun read record => { record with id := read },
    .required "from" text fun read record => { record with fromNode := read },
    .required "to" text fun read record => { record with toNode := read },
    .optional "speed" real fun read record => { record with speed := read },
    .optional "lanes" count32 fun read record => { record with lanes := read } ]

/-- Reads an edge, which has one lane unless it says otherwise. -/
def decode : Decoder EdgeRecord := record "RawEdge" fields ⟨"", "", "", 0.0, 1⟩

end EdgeRecord

namespace PhaseRecord

/-- The fields of a phase. -/
def fields : List (RecordField PhaseRecord) :=
  [ .optional "duration" real fun read record => { record with duration := read },
    .optional "state" (nullable text) fun read record => { record with state := read } ]

/-- Reads a phase. -/
def decode : Decoder PhaseRecord := record "RawPhase" fields ⟨0.0, none⟩

end PhaseRecord

namespace LightRecord

/-- The fields of a traffic light. -/
def fields : List (RecordField LightRecord) :=
  [ .required "id" text fun read record => { record with id := read },
    .optional "phases" (list PhaseRecord.decode) fun read record =>
      { record with phases := read } ]

/-- Reads a traffic light. -/
def decode : Decoder LightRecord := record "RawTrafficLight" fields ⟨"", []⟩

end LightRecord

namespace ConnectionRecord

/-- The fields of a connection. -/
def fields : List (RecordField ConnectionRecord) :=
  [ .required "from" text fun read record => { record with fromEdge := read },
    .required "to" text fun read record => { record with toEdge := read },
    .optional "fromLane" count32 fun read record => { record with fromLane := read },
    .optional "toLane" count32 fun read record => { record with toLane := read },
    .optional "tl" (nullable any) fun read record => { record with signal := read } ]

/-- Reads a connection. -/
def decode : Decoder ConnectionRecord := record "RawConnection" fields ⟨"", "", 0, 0, none⟩

end ConnectionRecord

namespace IntersectionRecord

/-- An intersection of which nothing is known. -/
def empty : IntersectionRecord := ⟨[], [], none, []⟩

/-- The fields of an intersection. -/
def fields : List (RecordField IntersectionRecord) :=
  [ .optional "nodes" (list NodeRecord.decode) fun read record => { record with nodes := read },
    .optional "edges" (list EdgeRecord.decode) fun read record => { record with edges := read },
    .optional "trafficLights" (nullable (list LightRecord.decode)) fun read record =>
      { record with lights := read },
    .optional "connections" (list ConnectionRecord.decode) fun read record =>
      { record with connections := read } ]

/-- Reads an intersection. -/
def decode : Decoder IntersectionRecord := record "RawIntersection" fields empty

end IntersectionRecord

namespace OutputRecord

/-- The outcome of a simulation of which nothing is known. -/
def empty : OutputRecord := ⟨[], .empty⟩

/-- The fields of an outcome. -/
def fields : List (RecordField OutputRecord) :=
  [ .optional "vehicles" (list VehicleRecord.decode) fun read record =>
      { record with vehicles := read },
    .optional "intersection" IntersectionRecord.decode fun read record =>
      { record with intersection := read } ]

/-- Reads an outcome. -/
def decode : Decoder OutputRecord := record "RawOutput" fields empty

end OutputRecord

/-- The fields of reported figures. -/
def resultsFields : List (RecordField (Results Float)) :=
  [ .optional "average_speed" real fun read record => { record with averageSpeed := read },
    .optional "average_travel_time" real fun read record =>
      { record with averageTravelTime := read },
    .optional "average_waiting_time" real fun read record =>
      { record with averageWaitingTime := read },
    .optional "total_vehicles" real fun read record => { record with totalVehicles := read },
    .optional "total_travel_time" real fun read record =>
      { record with totalTravelTime := read } ]

/-- Reads reported figures. -/
def decodeResults : Decoder (Results Float) :=
  record "SimulationResults" resultsFields ⟨0.0, 0.0, 0.0, 0.0, 0.0⟩

end JunctionReplay.Payload
