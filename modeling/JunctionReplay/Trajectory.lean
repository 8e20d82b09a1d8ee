import JunctionReplay.Network

/-!
# Trajectories

The recorded samples of one vehicle.  Look-ups rely on samples that are strictly increasing in
time; `Trajectory.Normalize` brings recorded ones into that form.

* `isActiveAt` — from the first sample to the last, both included.
* `isCompletedAt` — after the last sample.
* `speedAt` — the speed of the last sample that is not later, or of the first one.
-/

namespace JunctionReplay

/-- The state of a vehicle at one time. -/
structure Sample (α : Type) where
  time : α
  x : α
  y : α
  speed : α
  deriving DecidableEq, Repr

/-- The place of a sample. -/
def Sample.position {α : Type} (sample : Sample α) : Point α := ⟨sample.x, sample.y⟩

/-- The samples of one vehicle in the order of time. -/
structure Trajectory (α : Type) where
  id : String
  samples : List (Sample α)
  deriving DecidableEq, Repr

namespace Trajectory

variable {α : Type}

/-- The time of the first sample. -/
def startTime? (trajectory : Trajectory α) : Option α :=
  trajectory.samples.head?.map Sample.time

/-- The time of the last sample. -/
def endTime? (trajectory : Trajectory α) : Option α :=
  trajectory.samples.getLast?.map Sample.time

variable [Scalar α]

/-- Whether the vehicle is on its way. -/
def isActiveAt (trajectory : Trajectory α) (time : α) : Bool :=
  match trajectory.startTime?, trajectory.endTime? with
  | some start, some finish => start ≤ time && time ≤ finish
  | _, _ => false

/-- Whether the vehicle has arrived. -/
def isCompletedAt (trajectory : Trajectory α) (time : α) : Bool :=
  match trajectory.endTime? with
  | some finish => finish < time
  | none => false

/-- The number of samples in front of the first one that is later than `time`. -/
def samplesUntil (trajectory : Trajectory α) (time : α) : Nat :=
  (trajectory.samples.takeWhile fun sample => sample.time ≤ time).length

/-- The speed of the last sample that is not later than `time`, or of the first sample. -/
def speedAt? (trajectory : Trajectory α) (time : α) : Option α :=
  trajectory.samples[trajectory.samplesUntil time - 1]?.map Sample.speed

end Trajectory

/-- The latest end of the trajectories, and not before the start of the replay. -/
def maxEndTime {α : Type} [Scalar α] (trajectories : List (Trajectory α)) : α :=
  (trajectories.filterMap Trajectory.endTime?).foldl Scalar.larger 0

end JunctionReplay
