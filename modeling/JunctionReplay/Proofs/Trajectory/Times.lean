import JunctionReplay.Pose
import JunctionReplay.Proofs.Scalar.Order

/-!
# Trajectories in the order of time

The look-ups of a trajectory rely on samples that are strictly increasing in time.  In such a
trajectory the last sample is the latest one, so that after it nothing is left to go to: the vehicle
is nowhere between two samples, no longer on its way, and has arrived.

## Main Statements

* `Trajectory.IsIncreasing` — what the look-ups rely on.
* `Trajectory.IsIncreasing.bracket?_eq_none` — after the last sample there is no bracket.
* `Trajectory.not_isActiveAt_of_endTime_lt`, `Trajectory.isCompletedAt_of_endTime_lt` — a vehicle
  after its last sample.
* `le_maxEndTime` — no trajectory ends later than the last one.
-/

namespace JunctionReplay

open Scalar (IsNumber)

variable {α : Type} [Scalar α]

namespace Trajectory

/-- The samples are strictly increasing in time. -/
def IsIncreasing (trajectory : Trajectory α) : Prop :=
  trajectory.samples.Pairwise fun earlier later => earlier.time < later.time

variable {trajectory : Trajectory α} {time finish : α}

omit [Scalar α] in
theorem endTime?_eq_some_iff :
    trajectory.endTime? = some finish ↔
      ∃ last, trajectory.samples.getLast? = some last ∧ last.time = finish :=
  Option.map_eq_some_iff

variable [OrderedScalar α]

/-- After the last sample, no sample is later. -/
theorem IsIncreasing.time_le (increasing : trajectory.IsIncreasing)
    (ends : trajectory.endTime? = some finish) (after : finish < time) :
    ∀ sample ∈ trajectory.samples, sample.time ≤ time := by
  obtain ⟨last, isLast, rfl⟩ := endTime?_eq_some_iff.mp ends
  obtain ⟨before, split⟩ := List.getLast?_eq_some_iff.mp isLast
  rw [IsIncreasing, split] at increasing
  intro sample member
  rw [split] at member
  rcases List.mem_append.mp member with earlier | isSample
  · have below := (List.pairwise_append.mp increasing).2.2 sample earlier last List.mem_cons_self
    exact OrderedScalar.le_trans (Scalar.le_of_lt below) (Scalar.le_of_lt after)
  · obtain rfl := List.mem_singleton.mp isSample
    exact Scalar.le_of_lt after

/-- A vehicle after its last sample is nowhere between two samples. -/
theorem IsIncreasing.bracket?_eq_none (increasing : trajectory.IsIncreasing)
    (ended : ∀ finish, trajectory.endTime? = some finish → finish < time) :
    trajectory.bracket? time = none := by
  have all : ∀ sample ∈ trajectory.samples, decide (sample.time ≤ time) = true := by
    intro sample member
    obtain ⟨last, isLast⟩ := Option.isSome_iff_exists.mp
      (List.getLast?_isSome.mpr (List.ne_nil_of_mem member))
    have ends : trajectory.endTime? = some last.time := by
      rw [endTime?, isLast]
      rfl
    exact decide_eq_true (increasing.time_le ends (ended _ ends) sample member)
  have whole : (trajectory.samples ++ []).takeWhile (fun sample => sample.time ≤ time) =
      trajectory.samples ++ [] := List.takeWhile_append_of_pos all
  rw [List.append_nil] at whole
  have reached : trajectory.samplesUntil time = trajectory.samples.length :=
    congrArg List.length whole
  unfold bracket?
  rw [reached]
  cases length : trajectory.samples.length with
  | zero => rfl
  | succ index =>
      have beyond : trajectory.samples[index + 1]? = none :=
        List.getElem?_eq_none (Nat.le_of_eq length)
      dsimp only
      rw [beyond]
      cases trajectory.samples[index]? <;> rfl

/-- A vehicle after its last sample is no longer on its way. -/
theorem not_isActiveAt_of_endTime_lt
    (ended : ∀ finish, trajectory.endTime? = some finish → finish < time) :
    trajectory.isActiveAt time = false := by
  unfold isActiveAt
  cases starts : trajectory.startTime? with
  | none => rfl
  | some start =>
      cases ends : trajectory.endTime? with
      | none => rfl
      | some finish =>
          have late := Scalar.not_le_of_lt (ended finish ends)
          simp [late]

omit [OrderedScalar α] in
/-- A vehicle with samples has arrived after its last one; one without samples never does. -/
theorem isCompletedAt_of_endTime_lt
    (ended : ∀ finish, trajectory.endTime? = some finish → finish < time) :
    trajectory.isCompletedAt time = !trajectory.samples.isEmpty := by
  unfold isCompletedAt
  cases ends : trajectory.endTime? with
  | none =>
      have empty : trajectory.samples = [] :=
        List.getLast?_eq_none_iff.mp (Option.map_eq_none_iff.mp ends)
      rw [empty]
      rfl
  | some finish =>
      obtain ⟨last, isLast, -⟩ := endTime?_eq_some_iff.mp ends
      have nonempty : trajectory.samples ≠ [] := List.ne_nil_of_mem (List.mem_of_getLast? isLast)
      simp [ended finish ends, nonempty]

end Trajectory

/-! ## The end of all trajectories -/

/-- No trajectory ends later than the last one. -/
theorem le_maxEndTime [OrderedScalar α] {trajectories : List (Trajectory α)}
    {trajectory : Trajectory α} {finish : α}
    (member : trajectory ∈ trajectories) (ends : trajectory.endTime? = some finish)
    (number : IsNumber finish) : finish ≤ maxEndTime trajectories := by
  have listed : finish ∈ trajectories.filterMap Trajectory.endTime? :=
    List.mem_filterMap.mpr ⟨trajectory, member, ends⟩
  exact (Scalar.le_foldl_larger Scalar.isNumber_zero).2 finish listed number

/-- The end of trajectories with finite times is finite. -/
theorem isFinite_maxEndTime [OrderedScalar α] {trajectories : List (Trajectory α)}
    (finite : ∀ trajectory ∈ trajectories, ∀ sample ∈ trajectory.samples,
      Scalar.isFinite sample.time) : Scalar.isFinite (maxEndTime trajectories) := by
  refine Scalar.isFinite_foldl_larger OrderedScalar.isFinite_zero ?_
  intro finish listed
  obtain ⟨trajectory, member, ends⟩ := List.mem_filterMap.mp listed
  obtain ⟨last, isLast, rfl⟩ := Trajectory.endTime?_eq_some_iff.mp ends
  exact finite trajectory member last (List.mem_of_getLast? isLast)

end JunctionReplay
