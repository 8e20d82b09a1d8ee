import JunctionReplay.Approach
import JunctionReplay.Network
import JunctionReplay.Signal.Color
import JunctionReplay.Signal.Schedule

/-!
# Resolved signals

What the roads into the intersection are shown at a time.  An edge shows the color of the highest
priority among its lanes; a side of the intersection shows the color of its edge, and of several
edges that of the last one in the order of their ids.
-/

namespace JunctionReplay

/-- The color that a state shows to a signal index; a place past its end is red. -/
def stateColor (state : List Char) (index : Nat) : Color :=
  match state[index]? with
  | some c => Color.ofStateChar c
  | none => .red

/-- Enters the color of one lane, which an edge keeps if its priority is the highest so far. -/
def enterLane (state : List Char) (colors : Keyed String Color) (connection : LaneConnection) :
    Keyed String Color :=
  let color := stateColor state connection.signalIndex
  match colors.get? connection.fromEdge with
  | some current =>
    if current.priority < color.priority then colors.put connection.fromEdge color else colors
  | none => colors.put connection.fromEdge color

namespace Schedule

variable {α : Type} [Scalar α]

/-- The colors of the edges that lead into the intersection, by edge id. -/
def edgeColors (schedule : Schedule α) (time : α) (connections : List LaneConnection) :
    Keyed String Color :=
  match schedule.stateAt? time with
  | some state =>
    (connections.filter LaneConnection.isExternal).foldl (enterLane state.toList) []
  | none => []

/-- The colors of the sides of the intersection. -/
def approachColors (schedule : Schedule α) (time : α) (connections : List LaneConnection)
    (directions : Directions) : Keyed Approach Color :=
  Keyed.ofPairs <| (schedule.edgeColors time connections).filterMap fun entry =>
    (directions.get? entry.1).map fun approach => (approach, entry.2)

end Schedule

end JunctionReplay
