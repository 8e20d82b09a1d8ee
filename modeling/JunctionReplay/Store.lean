import JunctionReplay.Signal.Schedule
import JunctionReplay.Trajectory

/-!
# The store

Everything that is known of one simulation: the road network, the trajectories, the traffic
lights with the connections that they rule, and the figures that the simulation reported.  A
store is built once and only read from then on.
-/

namespace JunctionReplay

/-- A traffic light with its phases and the schedule that follows from them. -/
structure TrafficLight (α : Type) where
  id : String
  phases : List (Phase α)
  schedule : Schedule α
  deriving DecidableEq, Repr

/-- The figures that a simulation reports of itself. -/
structure Results (α : Type) where
  averageSpeed : α
  averageTravelTime : α
  averageWaitingTime : α
  totalVehicles : α
  totalTravelTime : α
  deriving DecidableEq, Repr

/-- All that is known of one simulation. -/
structure Store (α : Type) where
  nodes : List (RoadNode α)
  edges : List (RoadEdge α)
  vehicles : List (Trajectory α)
  lights : List (TrafficLight α)
  connections : List LaneConnection
  results : Option (Results α)
  deriving DecidableEq, Repr

namespace Store

variable {α : Type}

/-- The first node with the given id. -/
def node? (store : Store α) (id : String) : Option (RoadNode α) :=
  store.nodes.find? fun node => node.id = id

/-- The first edge with the given id. -/
def edge? (store : Store α) (id : String) : Option (RoadEdge α) :=
  store.edges.find? fun edge => edge.id = id

/-- The connections that start on a road that feeds the intersection. -/
def externalConnections (store : Store α) : List LaneConnection :=
  store.connections.filter LaneConnection.isExternal

/-- The connections that start on an edge of the road network. -/
def signalConnections (store : Store α) : List LaneConnection :=
  store.connections.filter fun connection => (store.edge? connection.fromEdge).isSome

/-- The end of the last trajectory. -/
def maxEndTime [Scalar α] (store : Store α) : α :=
  JunctionReplay.maxEndTime store.vehicles

/-- Whether there is neither a vehicle nor an edge. -/
def isEmpty (store : Store α) : Bool :=
  store.vehicles.isEmpty && store.edges.isEmpty

end Store

end JunctionReplay
