import JunctionReplay.Scalar

/-!
# The road network

Nodes, the edges between them, and the connections that lead from a lane of one edge to a lane of
another across the intersection.  Nodes and edges are looked up by id, and of several with one id
the first one counts.
-/

namespace JunctionReplay

/-- A place in the plane. -/
structure Point (α : Type) where
  x : α
  y : α
  deriving DecidableEq, Repr

/-- A node of the road network. -/
structure RoadNode (α : Type) where
  id : String
  x : α
  y : α
  kind : String
  deriving DecidableEq, Repr

/-- The place of a node. -/
def RoadNode.position {α : Type} (node : RoadNode α) : Point α := ⟨node.x, node.y⟩

/-- A road from one node to another. -/
structure RoadEdge (α : Type) where
  id : String
  fromNode : String
  toNode : String
  speedLimit : α
  laneCount : Nat
  deriving DecidableEq, Repr

/-- A movement from one lane to another, ruled by the signal with the given index. -/
structure LaneConnection where
  fromEdge : String
  toEdge : String
  fromLane : Nat
  toLane : Nat
  signalIndex : Nat
  deriving DecidableEq, Repr

namespace LaneConnection

/-- The mark in the ids of edges that lie inside an intersection. -/
def internalMark : Char := ':'

/-- Whether a movement starts on a road that feeds the intersection. -/
def isExternal (connection : LaneConnection) : Bool :=
  !connection.fromEdge.toList.contains internalMark

end LaneConnection

end JunctionReplay
