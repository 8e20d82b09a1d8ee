import JunctionReplay.Trajectory

/-!
# Metrics

What a viewer is told of the traffic at one time.
-/

namespace JunctionReplay

/-- The figures of one time. -/
structure Metrics (α : Type) where
  active : Nat
  completed : Nat
  total : Nat
  /-- The mean speed of the active vehicles. -/
  averageSpeed : α
  /-- The share of the whole time that has passed, from zero to one. -/
  progress : α
  totalTime : α
  deriving DecidableEq, Repr

namespace Metrics

variable {α : Type} [Scalar α]

/-- The vehicles that are on their way. -/
def activeVehicles (vehicles : List (Trajectory α)) (time : α) : List (Trajectory α) :=
  vehicles.filter fun vehicle => vehicle.isActiveAt time

/-- The vehicles that have arrived. -/
def completedVehicles (vehicles : List (Trajectory α)) (time : α) : List (Trajectory α) :=
  vehicles.filter fun vehicle => !vehicle.isActiveAt time && vehicle.isCompletedAt time

/-- The sum of the speeds at which vehicles go. -/
def speedSum (vehicles : List (Trajectory α)) (time : α) : α :=
  vehicles.foldl (fun sum vehicle => sum + (vehicle.speedAt? time).getD 0) 0

/-- The mean of the speeds at which vehicles go, zero without vehicles. -/
def meanSpeed (vehicles : List (Trajectory α)) (time : α) : α :=
  if vehicles.isEmpty then 0 else speedSum vehicles time / (vehicles.length : α)

/-- The share that a time has of the whole time. -/
def share (time total : α) : α :=
  if 0 < total then Scalar.clamp 0 1 (time / total) else 0

/-- The figures of one time. -/
def compute (vehicles : List (Trajectory α)) (time : α) : Metrics α :=
  let active := activeVehicles vehicles time
  let total := maxEndTime vehicles
  { active := active.length
    completed := (completedVehicles vehicles time).length
    total := vehicles.length
    averageSpeed := meanSpeed active time
    progress := share time total
    totalTime := total }

end Metrics

end JunctionReplay
