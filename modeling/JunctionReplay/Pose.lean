import JunctionReplay.Trajectory

/-!
# Poses

Where a vehicle is between two of its samples, and where it heads.  A vehicle has a pose from its
first sample on and up to its last one, at which it is gone.

A vehicle that hardly moves from one sample to the next has no direction of its own there, and
keeps the heading that it had before.
-/

namespace JunctionReplay

/-- The state of a vehicle in one frame. -/
structure Pose (α : Type) where
  vehicle : String
  position : Point α
  /-- In radians from the `x` axis. -/
  heading : α
  speed : α
  deriving DecidableEq, Repr

section

variable {α : Type} [Scalar α]

/-- The number that lies between two others at the share `t` of the way. -/
def lerp (start finish t : α) : α :=
  start * (1 - t) + finish * t

/-- The distance along an axis up to which a vehicle is taken to stand. -/
def standstill : α := 0.01

/-- A sample and the one that follows it. -/
structure Bracket (α : Type) where
  current : Sample α
  next : Sample α
  deriving DecidableEq, Repr

namespace Bracket

/-- The share of the way from one sample to the next that has passed at a time. -/
def share (bracket : Bracket α) (time : α) : α :=
  if 0 < bracket.next.time - bracket.current.time then
    (time - bracket.current.time) / (bracket.next.time - bracket.current.time)
  else 0

/-- The place between the two samples at a time. -/
def position (bracket : Bracket α) (time : α) : Point α where
  x := lerp bracket.current.x bracket.next.x (bracket.share time)
  y := lerp bracket.current.y bracket.next.y (bracket.share time)

/-- Whether the vehicle moves from one sample to the next. -/
def isMoving (bracket : Bracket α) : Bool :=
  standstill < Scalar.magnitude (bracket.next.x - bracket.current.x) ||
    standstill < Scalar.magnitude (bracket.next.y - bracket.current.y)

variable [Planar α]

/-- The direction from one sample to the next, or the former heading of a vehicle that stands. -/
def heading (bracket : Bracket α) (previous : α) : α :=
  if bracket.isMoving then
    Planar.direction (bracket.next.y - bracket.current.y) (bracket.next.x - bracket.current.x)
  else previous

end Bracket

namespace Trajectory

/-- The last sample that is not later than `time`, with the first one that is. -/
def bracket? (trajectory : Trajectory α) (time : α) : Option (Bracket α) :=
  match trajectory.samplesUntil time with
  | 0 => none
  | index + 1 =>
    match trajectory.samples[index]?, trajectory.samples[index + 1]? with
    | some current, some next => some ⟨current, next⟩
    | _, _ => none

/-- The pose at a time of a vehicle that headed to `previous` before. -/
def pose? [Planar α] (trajectory : Trajectory α) (time previous : α) : Option (Pose α) :=
  (trajectory.bracket? time).map fun bracket =>
    { vehicle := trajectory.id
      position := bracket.position time
      heading := bracket.heading previous
      speed := (trajectory.speedAt? time).getD bracket.current.speed }

end Trajectory

end

end JunctionReplay
