import JunctionReplay.Store

/-!
# Scene bounds

The scene has its origin in the middle of what it shows.  Roads are moved by the center of all
nodes, vehicles by the center of all samples, so that each of them lies around the origin.
-/

namespace JunctionReplay

variable {α : Type} [Scalar α]

/-- A rectangle along the axes. -/
structure Extent (α : Type) where
  low : Point α
  high : Point α
  deriving DecidableEq, Repr

namespace Extent

/-- The rectangle grown so far that it holds a point. -/
def grow (extent : Extent α) (point : Point α) : Extent α where
  low := ⟨Scalar.smaller extent.low.x point.x, Scalar.smaller extent.low.y point.y⟩
  high := ⟨Scalar.larger extent.high.x point.x, Scalar.larger extent.high.y point.y⟩

/-- The smallest rectangle that holds all points, if there are any. -/
def ofPoints? : List (Point α) → Option (Extent α)
  | [] => none
  | first :: rest => some (rest.foldl Extent.grow ⟨first, first⟩)

end Extent

namespace Point

/-- The point of the origin. -/
def origin : Point α := ⟨0, 0⟩

/-- The point halfway between two others. -/
def middle (a b : Point α) : Point α :=
  ⟨(a.x + b.x) * 0.5, (a.y + b.y) * 0.5⟩

/-- The point seen from another one. -/
def seenFrom (point center : Point α) : Point α :=
  ⟨point.x - center.x, point.y - center.y⟩

/-- The center of points, the origin without any. -/
def centerOf (points : List (Point α)) : Point α :=
  match Extent.ofPoints? points with
  | some extent => middle extent.low extent.high
  | none => origin

end Point

/-- The points that are moved to the origin of the scene. -/
structure SceneBounds (α : Type) where
  roadCenter : Point α
  vehicleCenter : Point α
  deriving DecidableEq, Repr

namespace SceneBounds

/-- The bounds of all that is known of a simulation. -/
def ofStore (store : Store α) : SceneBounds α where
  roadCenter := Point.centerOf (store.nodes.map RoadNode.position)
  vehicleCenter :=
    Point.centerOf (store.vehicles.flatMap fun vehicle => vehicle.samples.map Sample.position)

/-- The place of a vehicle in the scene. -/
def placeVehicle (bounds : SceneBounds α) (point : Point α) : Point α :=
  point.seenFrom bounds.vehicleCenter

/-- The place of a point of the road network in the scene. -/
def placeRoad (bounds : SceneBounds α) (point : Point α) : Point α :=
  point.seenFrom bounds.roadCenter

end SceneBounds

end JunctionReplay
