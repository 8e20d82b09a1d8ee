import JunctionReplay.Metrics
import JunctionReplay.Proofs.Trajectory.Times

/-!
# The stages of a vehicle

A vehicle is not there yet, then on its way, then arrived, and it goes through these stages in this
order as time passes: once it has started it has started for good, and once it has arrived it stays
arrived.  A vehicle without samples never starts.

Hence the vehicles that have arrived only become more, and so do those that have started, which are
the ones on their way and the ones that have arrived taken together.  The ones on their way alone
become more and fewer.

## Main Definitions

* `Trajectory.hasStarted` — whether a vehicle is on its way or has arrived.

## Main Statements

* `Trajectory.IsIncreasing.hasStarted_iff` — a vehicle has started from its first sample on.
* `Metrics.length_completedVehicles_mono`, `Metrics.countP_hasStarted_mono` — the vehicles that have
  arrived do not become fewer, nor do those that have started.
-/

namespace JunctionReplay

open Scalar (IsNumber)

variable {α : Type} [Scalar α]

namespace Trajectory

/-- Whether a vehicle is on its way or has arrived. -/
def hasStarted (trajectory : Trajectory α) (time : α) : Bool :=
  trajectory.isActiveAt time || trajectory.isCompletedAt time

variable {trajectory : Trajectory α} {time later start finish : α}

/-- A vehicle without samples is never on its way, and never arrives. -/
theorem stages_of_samples_eq_nil (empty : trajectory.samples = []) (time : α) :
    trajectory.isActiveAt time = false ∧ trajectory.isCompletedAt time = false := by
  simp [isActiveAt, isCompletedAt, startTime?, endTime?, empty]

theorem isCompletedAt_iff :
    trajectory.isCompletedAt time ↔
      ∃ finish, trajectory.endTime? = some finish ∧ finish < time := by
  unfold isCompletedAt
  cases trajectory.endTime? with
  | none => simp
  | some finish => simp

theorem isActiveAt_iff :
    trajectory.isActiveAt time ↔
      ∃ start finish, trajectory.startTime? = some start ∧ trajectory.endTime? = some finish ∧
        start ≤ time ∧ time ≤ finish := by
  unfold isActiveAt
  cases trajectory.startTime? with
  | none => simp
  | some start =>
      cases trajectory.endTime? with
      | none => simp
      | some finish => simp

omit [Scalar α] in
/-- A vehicle that ends somewhere has started somewhere, and the other way around. -/
theorem exists_startTime?_iff :
    (∃ start, trajectory.startTime? = some start) ↔
      ∃ finish, trajectory.endTime? = some finish := by
  simp only [← Option.isSome_iff_exists, startTime?, endTime?, Option.isSome_map,
    List.isSome_head?, List.getLast?_isSome]

variable [OrderedScalar α]

/-- A vehicle that has arrived is no longer on its way. -/
theorem not_isActiveAt_of_isCompletedAt (completed : trajectory.isCompletedAt time) :
    trajectory.isActiveAt time = false := by
  obtain ⟨finish, ends, after⟩ := isCompletedAt_iff.mp completed
  refine not_isActiveAt_of_endTime_lt fun other otherEnds => ?_
  obtain rfl := Option.some.inj (ends.symm.trans otherEnds)
  exact after

/-- A vehicle that has arrived stays arrived. -/
theorem isCompletedAt_mono (le : time ≤ later) (completed : trajectory.isCompletedAt time) :
    trajectory.isCompletedAt later := by
  obtain ⟨finish, ends, after⟩ := isCompletedAt_iff.mp completed
  exact isCompletedAt_iff.mpr ⟨finish, ends, Scalar.lt_of_lt_of_le after le⟩

/-- The first sample is not later than the last one. -/
theorem IsIncreasing.startTime_le_endTime (increasing : trajectory.IsIncreasing)
    (numbers : ∀ sample ∈ trajectory.samples, IsNumber sample.time)
    (starts : trajectory.startTime? = some start) (ends : trajectory.endTime? = some finish) :
    start ≤ finish := by
  obtain ⟨first, isFirst, rfl⟩ := Option.map_eq_some_iff.mp starts
  obtain ⟨last, isLast, rfl⟩ := endTime?_eq_some_iff.mp ends
  obtain ⟨rest, split⟩ := List.head?_eq_some_iff.mp isFirst
  rw [IsIncreasing, split] at increasing
  rw [split] at isLast
  rcases List.mem_cons.mp (List.mem_of_getLast? isLast) with rfl | member
  · exact numbers last (split ▸ List.mem_cons_self)
  · exact Scalar.le_of_lt (List.rel_of_pairwise_cons increasing member)

/-- A vehicle has started from its first sample on. -/
theorem IsIncreasing.hasStarted_iff (increasing : trajectory.IsIncreasing)
    (numbers : ∀ sample ∈ trajectory.samples, IsNumber sample.time) :
    trajectory.hasStarted time ↔ ∃ start, trajectory.startTime? = some start ∧ start ≤ time := by
  rw [hasStarted, Bool.or_eq_true, isActiveAt_iff, isCompletedAt_iff]
  constructor
  · rintro (⟨start, finish, starts, -, lower, -⟩ | ⟨finish, ends, after⟩)
    · exact ⟨start, starts, lower⟩
    · obtain ⟨start, starts⟩ := exists_startTime?_iff.mpr ⟨finish, ends⟩
      have ordered := increasing.startTime_le_endTime numbers starts ends
      exact ⟨start, starts, OrderedScalar.le_trans ordered (Scalar.le_of_lt after)⟩
  · rintro ⟨start, starts, lower⟩
    obtain ⟨finish, ends⟩ := exists_startTime?_iff.mp ⟨start, starts⟩
    have ordered := increasing.startTime_le_endTime numbers starts ends
    -- Either the time is up to the last sample or it is past it.
    by_cases upper : time ≤ finish
    · exact Or.inl ⟨start, finish, starts, ends, lower, upper⟩
    · have after := Scalar.lt_of_not_le (OrderedScalar.isNumber_of_le ordered).2
        (OrderedScalar.isNumber_of_le lower).2 upper
      exact Or.inr ⟨finish, ends, after⟩

/-- A vehicle that has started has started for good. -/
theorem IsIncreasing.hasStarted_mono (increasing : trajectory.IsIncreasing)
    (numbers : ∀ sample ∈ trajectory.samples, IsNumber sample.time) (le : time ≤ later)
    (started : trajectory.hasStarted time) : trajectory.hasStarted later := by
  obtain ⟨start, starts, lower⟩ := (increasing.hasStarted_iff numbers).mp started
  exact (increasing.hasStarted_iff numbers).mpr ⟨start, starts, OrderedScalar.le_trans lower le⟩

end Trajectory

/-! ## Counts of vehicles -/

namespace Metrics

variable {vehicles : List (Trajectory α)} {time later : α}

/-- The vehicles on their way and those that have arrived are those that have started. -/
theorem length_active_add_completed (vehicles : List (Trajectory α)) (time : α) :
    (activeVehicles vehicles time).length + (completedVehicles vehicles time).length =
      vehicles.countP fun vehicle => vehicle.hasStarted time := by
  rw [activeVehicles, completedVehicles, ← List.countP_eq_length_filter,
    ← List.countP_eq_length_filter]
  induction vehicles with
  | nil => rfl
  | cons first rest ih =>
      rw [List.countP_cons, List.countP_cons, List.countP_cons, ← ih, Trajectory.hasStarted]
      cases first.isActiveAt time <;> cases first.isCompletedAt time <;> simp <;> omega

variable [OrderedScalar α]

theorem length_completedVehicles (vehicles : List (Trajectory α)) (time : α) :
    (completedVehicles vehicles time).length =
      vehicles.countP fun vehicle => vehicle.isCompletedAt time := by
  rw [completedVehicles, ← List.countP_eq_length_filter]
  refine List.countP_congr fun vehicle _ => ?_
  cases completed : vehicle.isCompletedAt time with
  | false => simp
  | true => simp [Trajectory.not_isActiveAt_of_isCompletedAt completed]

/-- The vehicles that have arrived do not become fewer. -/
theorem length_completedVehicles_mono (vehicles : List (Trajectory α)) (le : time ≤ later) :
    (completedVehicles vehicles time).length ≤ (completedVehicles vehicles later).length := by
  rw [length_completedVehicles, length_completedVehicles]
  exact List.countP_mono_left fun vehicle _ => Trajectory.isCompletedAt_mono le

/-- The vehicles that have started do not become fewer. -/
theorem countP_hasStarted_mono
    (increasing : ∀ vehicle ∈ vehicles, vehicle.IsIncreasing)
    (numbers : ∀ vehicle ∈ vehicles, ∀ sample ∈ vehicle.samples, IsNumber sample.time)
    (le : time ≤ later) :
    vehicles.countP (fun vehicle => vehicle.hasStarted time) ≤
      vehicles.countP fun vehicle => vehicle.hasStarted later :=
  List.countP_mono_left fun vehicle member =>
    (increasing vehicle member).hasStarted_mono (numbers vehicle member) le

end Metrics

end JunctionReplay
