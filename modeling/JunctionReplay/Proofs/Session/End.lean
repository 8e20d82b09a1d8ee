import JunctionReplay.Proofs.Trajectory.Times
import JunctionReplay.Session

/-!
# The end of a replay

After the end of its last trajectory a store has nothing left to show: no vehicle has a pose or is
on its way, all vehicles with samples have arrived, and the share of the time that has passed is
one.

## Main Definitions

* `Store.HasEnded` — all trajectories of a store have ended.
* `Frame.ShowsEnd` — a frame shows the end of a store.

## Main Statements

* `Store.hasEnded_of_maxEndTime_lt` — after the end of the last trajectory all have ended.
* `Session.posesAt_eq_nil`, `Metrics.activeVehicles_eq_nil`, `Metrics.completedVehicles_eq` — what
  is left of a store that has ended.
* `Session.frame_showsEnd` — the frame of a session after the end.
-/

namespace JunctionReplay

open Scalar (IsNumber)

variable {α : Type} [Scalar α] {store : Store α} {time : α}

/-- All trajectories of a store have ended by a time. -/
def Store.HasEnded (store : Store α) (time : α) : Prop :=
  ∀ vehicle ∈ store.vehicles, ∀ finish, vehicle.endTime? = some finish → finish < time

/-- A frame shows the end of a store. -/
structure Frame.ShowsEnd (frame : Frame α) (store : Store α) : Prop where
  /-- The frame is later than the last sample of any vehicle. -/
  maxEndTime_lt : store.maxEndTime < frame.time
  /-- All of the time has passed. -/
  progress_eq : frame.metrics.progress = 1
  poses_eq : frame.poses = []
  active_eq : frame.metrics.active = 0
  /-- The vehicles that have arrived are those with at least one sample. -/
  completed_eq :
    frame.metrics.completed = store.vehicles.countP fun vehicle => !vehicle.samples.isEmpty

section

variable [OrderedScalar α]

/-- After the end of the last trajectory all trajectories have ended. -/
theorem Store.hasEnded_of_maxEndTime_lt
    (numbers : ∀ vehicle ∈ store.vehicles, ∀ finish, vehicle.endTime? = some finish →
      IsNumber finish)
    (after : store.maxEndTime < time) : store.HasEnded time := by
  intro vehicle member finish ends
  have notLater := le_maxEndTime member ends (numbers vehicle member finish ends)
  exact Scalar.lt_of_le_of_lt notLater after

/-- A vehicle that has arrived is no longer on its way. -/
theorem Metrics.activeVehicles_eq_nil (ended : store.HasEnded time) :
    activeVehicles store.vehicles time = [] := by
  refine List.filter_eq_nil_iff.mpr ?_
  intro vehicle member
  rw [Trajectory.not_isActiveAt_of_endTime_lt (ended vehicle member)]
  exact Bool.false_ne_true

/-- In the end the vehicles with samples have arrived. -/
theorem Metrics.completedVehicles_eq (ended : store.HasEnded time) :
    completedVehicles store.vehicles time =
      store.vehicles.filter fun vehicle => !vehicle.samples.isEmpty := by
  refine List.filter_congr ?_
  intro vehicle member
  rw [Trajectory.not_isActiveAt_of_endTime_lt (ended vehicle member),
    Trajectory.isCompletedAt_of_endTime_lt (ended vehicle member)]
  rfl

/-- In the end no vehicle has a pose, whatever it headed to before. -/
theorem Session.posesAt_eq_nil [Planar α]
    (increasing : ∀ vehicle ∈ store.vehicles, vehicle.IsIncreasing)
    (ended : store.HasEnded time) (headings : List α) :
    posesAt time store.vehicles headings = [] := by
  refine List.filterMap_eq_nil_iff.mpr ?_
  intro ⟨vehicle, previous⟩ member
  have listed := (List.of_mem_zip member).1
  have gone := (increasing vehicle listed).bracket?_eq_none (ended vehicle listed)
  dsimp only
  rw [Trajectory.pose?, gone]
  rfl

end

/-! ## In exact arithmetic -/

/-- After the end the whole time has passed. -/
theorem Metrics.share_eq_one {time total : Rat} (positive : 0 < total) (after : total < time) :
    share time total = 1 := by
  have beyond : 1 < time / total := (Rat.lt_div_iff positive).mpr (by rwa [Rat.one_mul])
  have ordered : (0 : Rat) ≤ 1 := by decide
  exact (if_pos positive).trans (Scalar.clamp_of_lt ordered beyond)

/-- The frame of a session after the end of its store. -/
theorem Session.frame_showsEnd [Planar Rat] {session : Session Rat}
    (increasing : ∀ vehicle ∈ session.store.vehicles, vehicle.IsIncreasing)
    (positive : 0 < session.store.maxEndTime)
    (after : session.store.maxEndTime < session.clock.time) :
    session.frame.ShowsEnd session.store := by
  have ended : session.store.HasEnded session.clock.time :=
    Store.hasEnded_of_maxEndTime_lt (fun _ _ _ _ => Rat.le_refl) after
  exact
    { maxEndTime_lt := after
      progress_eq := Metrics.share_eq_one positive after
      poses_eq := posesAt_eq_nil increasing ended _
      active_eq := congrArg List.length (Metrics.activeVehicles_eq_nil ended)
      completed_eq := by
        rw [List.countP_eq_length_filter]
        exact congrArg List.length (Metrics.completedVehicles_eq ended) }

end JunctionReplay
