import JunctionReplay.Approach
import JunctionReplay.Fault
import JunctionReplay.Network
import JunctionReplay.Signal.Schedule
import JunctionReplay.Word

/-!
# Standard cycles

A light for which no usable phases are known runs through a standard cycle of four: green and
yellow for the road from north to south, then green and yellow for the road from east to west.
Which places of the states are lit follows from the connections that start on a mapped road.
-/

namespace JunctionReplay

/-- The durations of the phases of a standard cycle. -/
structure CycleTiming (α : Type) where
  northSouthGreen : α
  northSouthYellow : α
  eastWestGreen : α
  eastWestYellow : α
  /-- The length of the states when no connection has a signal. -/
  fallbackStateLength : Nat
  deriving DecidableEq, Repr

namespace CycleTiming

variable {α : Type} [Scalar α]

/-- The timing that holds unless it is set otherwise. -/
def standard : CycleTiming α where
  northSouthGreen := 30.0
  northSouthYellow := 5.0
  eastWestGreen := 30.0
  eastWestYellow := 5.0
  fallbackStateLength := 12

/-- The duration of the whole cycle. -/
def cycleLength (timing : CycleTiming α) : α :=
  timing.northSouthGreen + timing.northSouthYellow + timing.eastWestGreen + timing.eastWestYellow

end CycleTiming

namespace StandardCycle

/-- The signal indices of the connections that start outside of the intersection. -/
def externalIndices (connections : List LaneConnection) : List Nat :=
  (connections.filter LaneConnection.isExternal).map LaneConnection.signalIndex

/-- The number of places of a state: one more than the largest signal index. -/
def stateLength (connections : List LaneConnection) (fallback : Nat) : Nat :=
  match (externalIndices connections).max? with
  | some largest => largest + 1
  | none => fallback

/-- The signal indices of the connections from the roads of one axis. -/
def litIndices (connections : List LaneConnection) (directions : Directions)
    (northSouth : Bool) : List Nat :=
  ((connections.filter LaneConnection.isExternal).filter fun connection =>
    match directions.get? connection.fromEdge with
    | some approach => approach.isNorthSouth == northSouth
    | none => false).map LaneConnection.signalIndex

/-- Writes a mark at places of a state, each of which has to lie within it. -/
def markPlaces (mark : Char) (places : List Nat) (state : List Char) :
    Except Fault (List Char) :=
  places.foldlM (fun state place =>
    if place < state.length then .ok (state.set place mark) else .error .placeOutsideState) state

/-- A state with `mark` at the lit places and red elsewhere. -/
def litState (length : Nat) (lit : List Nat) (mark : Char) : Except Fault String :=
  (markPlaces mark lit (List.replicate length 'r')).map String.ofList

/-- The number of places from which on a state cannot be held: four bytes for each of its places
have to be addressed with 63 bits. -/
def stateLimit : Nat := Word.count 61

/-- The four phases of the standard cycle. -/
def phases {α : Type} (connections : List LaneConnection) (directions : Directions)
    (timing : CycleTiming α) : Except Fault (List (Phase α)) :=
  let length := stateLength connections timing.fallbackStateLength
  if length < stateLimit then do
    let northSouth := litState length (litIndices connections directions true)
    let eastWest := litState length (litIndices connections directions false)
    .ok
      [ ⟨timing.northSouthGreen, ← northSouth 'G'⟩,
        ⟨timing.northSouthYellow, ← northSouth 'y'⟩,
        ⟨timing.eastWestGreen, ← eastWest 'G'⟩,
        ⟨timing.eastWestYellow, ← eastWest 'y'⟩ ]
  else .error .stateTooLong

end StandardCycle

end JunctionReplay
