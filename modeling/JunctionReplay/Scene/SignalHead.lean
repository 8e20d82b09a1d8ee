import JunctionReplay.Scene.Road
import JunctionReplay.Signal.Resolve

/-!
# Signal heads

The signal of an edge stands at its far end, set back a little and beside its lanes.  An edge
that cannot be drawn, or that has no direction, has no head.
-/

namespace JunctionReplay

variable {α : Type} [Scalar α]

/-- A signal that is drawn for an edge. -/
structure SignalHead (α : Type) where
  edge : String
  position : Point α
  rotation : α
  color : Color
  deriving DecidableEq, Repr

/-- The width of a lane as far as the place of a signal goes. -/
def signalLaneWidth : α := 3.5

/-- How far a signal is set back from the end of its edge. -/
def signalSetback : α := 5.0

variable [Planar α]

/-- The vector of length one with the same direction, if there is a direction. -/
def unitVector? (vector : Point α) : Option (Point α) :=
  if vectorLength vector ≤ Planar.negligible then none
  else some ⟨vector.x / vectorLength vector, vector.y / vectorLength vector⟩

namespace SignalHead

/-- How far a signal stands beside the middle of its road. -/
def curbOffset (edge : RoadEdge α) : α :=
  (edge.laneCount : α) * signalLaneWidth / 2.0 + 1.0

/-- The head at the end of a road that leads in the given direction. -/
def atEnd (edge : RoadEdge α) (color : Color) (finish direction : Point α) : SignalHead α where
  edge := edge.id
  position :=
    ⟨finish.x - direction.x * signalSetback + -direction.y * curbOffset edge,
      finish.y - direction.y * signalSetback + direction.x * curbOffset edge⟩
  rotation := -Planar.direction direction.y direction.x + Planar.quarterTurn
  color := color

/-- The head of the first edge with the given id, if it can be drawn. -/
def ofEdgeId? (store : Store α) (bounds : SceneBounds α) (id : String) (color : Color) :
    Option (SignalHead α) := do
  let edge ← store.edge? id
  let (start, finish) ← store.endpoints? bounds edge
  let direction ← unitVector? (finish.seenFrom start)
  some (atEnd edge color finish direction)

end SignalHead

/-- The heads of colored edges, in the order of the edge ids. -/
def Store.signalHeads (store : Store α) (bounds : SceneBounds α) (colors : Keyed String Color) :
    List (SignalHead α) :=
  colors.filterMap fun shown => SignalHead.ofEdgeId? store bounds shown.1 shown.2

end JunctionReplay
