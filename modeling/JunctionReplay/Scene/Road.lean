import JunctionReplay.Scene.Bounds

/-!
# Roads of the scene

The straight strips that are drawn for edges, with the lines that divide their lanes.  An edge
without one of its nodes is not drawn.
-/

namespace JunctionReplay

variable {α : Type} [Scalar α]

/-- The strip that is drawn for an edge. -/
structure RoadStrip (α : Type) where
  edge : String
  start : Point α
  finish : Point α
  length : α
  /-- The direction in radians from the `x` axis. -/
  angle : α
  width : α
  /-- How far each dividing line lies to the side of the middle. -/
  dividers : List α
  /-- The number of dashes of each dividing line. -/
  dashes : Nat
  deriving DecidableEq, Repr

/-- The point halfway along a strip. -/
def RoadStrip.middle (strip : RoadStrip α) : Point α :=
  Point.middle strip.start strip.finish

/-- The width of a lane unless it is set otherwise. -/
def standardLaneWidth : α := 10.0

/-- The distance from one dash of a line to the next. -/
def dashSpacing : α := 10.0

/-- The length of a vector. -/
def vectorLength [Planar α] (vector : Point α) : α :=
  Planar.squareRoot (vector.x * vector.x + vector.y * vector.y)

/-- The ends of an edge in the scene, if both of its nodes are known. -/
def Store.endpoints? (store : Store α) (bounds : SceneBounds α) (edge : RoadEdge α) :
    Option (Point α × Point α) :=
  match store.node? edge.fromNode, store.node? edge.toNode with
  | some start, some finish =>
    some (bounds.placeRoad start.position, bounds.placeRoad finish.position)
  | _, _ => none

namespace RoadStrip

/-- The number of lanes that are drawn, at least one. -/
def laneCount (edge : RoadEdge α) : Nat := max edge.laneCount 1

/-- The width of a number of lanes. -/
def widthOf (lanes : Nat) (laneWidth : α) : α := (lanes : α) * laneWidth

/-- The offset of the line behind the first `index` lanes. -/
def dividerAt (lanes index : Nat) (laneWidth : α) : α :=
  (index : α) * laneWidth - widthOf lanes laneWidth / 2.0

/-- The offsets of the lines between lanes; a single lane has one line in its middle. -/
def dividersOf (lanes : Nat) (laneWidth : α) : List α :=
  if lanes = 1 then [0]
  else (List.range (lanes - 1)).map fun index => dividerAt lanes (index + 1) laneWidth

variable [Planar α]

/-- The strip of an edge between two points of the scene. -/
def between (edge : RoadEdge α) (laneWidth : α) (start finish : Point α) : RoadStrip α :=
  let direction := finish.seenFrom start
  { edge := edge.id
    start := start
    finish := finish
    length := vectorLength direction
    angle := Planar.direction direction.y direction.x
    width := widthOf (laneCount edge) laneWidth
    dividers := dividersOf (laneCount edge) laneWidth
    dashes := Scalar.wholeUnits (vectorLength direction / dashSpacing) }

/-- The strip of an edge, if both of its nodes are known. -/
def ofEdge? (store : Store α) (bounds : SceneBounds α) (laneWidth : α) (edge : RoadEdge α) :
    Option (RoadStrip α) :=
  (store.endpoints? bounds edge).map fun ends => between edge laneWidth ends.1 ends.2

end RoadStrip

/-- The strips of all edges that can be drawn, in the order of the store. -/
def Store.roadStrips [Planar α] (store : Store α) (bounds : SceneBounds α) (laneWidth : α) :
    List (RoadStrip α) :=
  store.edges.filterMap (RoadStrip.ofEdge? store bounds laneWidth)

/-- The edges that are not drawn. -/
def Store.undrawnEdges (store : Store α) (bounds : SceneBounds α) : List (RoadEdge α) :=
  store.edges.filter fun edge => (store.endpoints? bounds edge).isNone

end JunctionReplay
