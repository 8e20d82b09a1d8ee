import Mathlib.Data.List.Induction
import JunctionReplay.Proofs.Trajectory.Brackets

/-!
# Where vehicles move

From one sample to the next a vehicle moves if it gets further than a hundredth along an axis, and
then the two samples tell where it heads to.  Where it stands they tell nothing, and it keeps the
heading with which it was last seen to move.

Both are said twice here: as they are looked up, from the bracket that is found for a time, and as
relations to samples and to the times at which a vehicle was seen, which do not speak of a search.

## Main Definitions

* `Sample.MovesTo` — a vehicle moves from one sample to another.
* `Trajectory.HeadsTo`, `Trajectory.movingDirection?` — where a vehicle moves at a time.
* `Trajectory.LastHeaded`, `Trajectory.lastHeading` — where it moved when it was last seen to move.
* `Pose.IsOf` — a pose of a vehicle that was seen at some times before.

## Main Statements

* `Trajectory.IsIncreasing.movingDirection?_eq_some_iff` — the direction that is looked up is that
  of the samples around the time.
* `Trajectory.IsIncreasing.lastHeaded_lastHeading` — the heading that is left is the last one seen.
* `Trajectory.IsIncreasing.isOf_of_poseWith?` — so are the poses that have it where they stand.
-/

namespace JunctionReplay

variable {α : Type} [Scalar α]

/-! ## Samples -/

/-- From one sample to another a vehicle gets further than a hundredth along an axis. -/
def Sample.MovesTo (current next : Sample α) : Prop :=
  (0.01 : α) < Scalar.magnitude (next.x - current.x) ∨
    (0.01 : α) < Scalar.magnitude (next.y - current.y)

instance (current next : Sample α) : Decidable (current.MovesTo next) :=
  inferInstanceAs (Decidable (_ ∨ _))

theorem Bracket.isMoving_iff (bracket : Bracket α) :
    bracket.isMoving ↔ bracket.current.MovesTo bracket.next := by
  rw [isMoving, Bool.or_eq_true, decide_eq_true_iff, decide_eq_true_iff]
  rfl

variable [Planar α]

/-- The direction from one sample to another, in radians from the `x` axis. -/
def Sample.directionTo (current next : Sample α) : α :=
  Planar.direction (next.y - current.y) (next.x - current.x)

theorem Bracket.heading_eq (bracket : Bracket α) (previous : α) :
    bracket.heading previous =
      if bracket.current.MovesTo bracket.next then bracket.current.directionTo bracket.next
      else previous := by
  unfold heading
  simp only [isMoving_iff]
  rfl

namespace Trajectory

variable {vehicle : Trajectory α} {seen : List α} {time direction heading : α}

/-! ## Moving vehicles -/

/-- At a time between two samples a vehicle moves from one to the other. -/
def HeadsTo (vehicle : Trajectory α) (time direction : α) : Prop :=
  ∃ place bracket, vehicle.IsBetween time place bracket ∧
    bracket.current.MovesTo bracket.next ∧ direction = bracket.current.directionTo bracket.next

/-- At a time a vehicle does not move. -/
def Stands (vehicle : Trajectory α) (time : α) : Prop :=
  ∀ direction, ¬ vehicle.HeadsTo time direction

/-- The direction in which a vehicle moves at a time, if it does move. -/
def movingDirection? (vehicle : Trajectory α) (time : α) : Option α :=
  (vehicle.bracket? time).bind fun bracket =>
    if bracket.current.MovesTo bracket.next then some (bracket.current.directionTo bracket.next)
    else none

section

variable [OrderedScalar α] (increasing : vehicle.IsIncreasing)

include increasing

theorem IsIncreasing.movingDirection?_eq_some_iff :
    vehicle.movingDirection? time = some direction ↔ vehicle.HeadsTo time direction := by
  rw [movingDirection?, Option.bind_eq_some_iff]
  constructor
  · rintro ⟨bracket, found, moves⟩
    obtain ⟨place, between⟩ := increasing.bracket?_eq_some_iff.mp found
    split at moves
    next isMoving => exact ⟨place, bracket, between, isMoving, (Option.some.inj moves).symm⟩
    next => cases moves
  · rintro ⟨place, bracket, between, isMoving, rfl⟩
    exact ⟨bracket, increasing.bracket?_eq_some_iff.mpr ⟨place, between⟩, if_pos isMoving⟩

theorem IsIncreasing.movingDirection?_eq_none_iff :
    vehicle.movingDirection? time = none ↔ vehicle.Stands time := by
  rw [Option.eq_none_iff_forall_ne_some, Stands]
  simp only [ne_eq, increasing.movingDirection?_eq_some_iff]

end

/-! ## Poses -/

/-- The pose of a vehicle at a time, which heads to where it moves, or else as is given. -/
def poseWith? (vehicle : Trajectory α) (time rest : α) : Option (Pose α) :=
  (vehicle.bracket? time).map fun bracket =>
    { vehicle := vehicle.id
      position := bracket.position time
      heading := (vehicle.movingDirection? time).getD rest
      speed := (vehicle.speedAt? time).getD bracket.current.speed }

theorem pose?_eq_poseWith? (vehicle : Trajectory α) (time previous : α) :
    vehicle.pose? time previous = vehicle.poseWith? time previous := by
  unfold pose? poseWith? movingDirection?
  cases vehicle.bracket? time with
  | none => rfl
  | some bracket =>
      simp only [Option.map_some, Option.bind_some, Bracket.heading_eq]
      split <;> rfl

/-! ## Vehicles that were seen -/

/-- What is left of the times at which a vehicle was seen: where it moved at the last one of them at
which it did, or zero if it never did. -/
inductive LastHeaded (vehicle : Trajectory α) : (seen : List α) → (heading : α) → Prop where
  | moved {before after : List α} {time direction : α} (heads : vehicle.HeadsTo time direction)
      (stands : ∀ later ∈ after, vehicle.Stands later) :
      LastHeaded vehicle (before ++ time :: after) direction
  | never {seen : List α} (stands : ∀ time ∈ seen, vehicle.Stands time) : LastHeaded vehicle seen 0

/-- A further time at which a vehicle stands changes nothing. -/
theorem LastHeaded.append_standing (last : vehicle.LastHeaded seen heading)
    (stands : vehicle.Stands time) : vehicle.LastHeaded (seen ++ [time]) heading := by
  have further {others : List α} (standing : ∀ other ∈ others, vehicle.Stands other) :
      ∀ other ∈ others ++ [time], vehicle.Stands other := by
    intro other member
    rcases List.mem_append.mp member with earlier | same
    · exact standing other earlier
    · rw [List.mem_singleton.mp same]
      exact stands
  cases last with
  | moved heads standing =>
      rw [List.append_assoc, List.cons_append]
      exact .moved heads (further standing)
  | never standing => exact .never (further standing)

/-- The direction in which a vehicle moved at the last of the times at which it did, zero without
such a time. -/
def lastHeading (vehicle : Trajectory α) (seen : List α) : α :=
  (seen.filterMap vehicle.movingDirection?).getLast?.getD 0

theorem lastHeading_append_singleton (vehicle : Trajectory α) (seen : List α) (time : α) :
    vehicle.lastHeading (seen ++ [time]) =
      (vehicle.movingDirection? time).getD (vehicle.lastHeading seen) := by
  rw [lastHeading, lastHeading, List.filterMap_append, List.getLast?_append]
  cases moving : vehicle.movingDirection? time with
  | none => simp [moving]
  | some direction => simp [moving]

/-- The heading that is left is the one with which the vehicle was last seen to move. -/
theorem IsIncreasing.lastHeaded_lastHeading [OrderedScalar α] (increasing : vehicle.IsIncreasing)
    (seen : List α) : vehicle.LastHeaded seen (vehicle.lastHeading seen) := by
  induction seen using List.reverseRecOn with
  | nil => exact .never fun _ member => nomatch member
  | append_singleton seen time ih =>
      rw [lastHeading_append_singleton]
      cases moving : vehicle.movingDirection? time with
      | none => exact ih.append_standing (increasing.movingDirection?_eq_none_iff.mp moving)
      | some direction =>
          have heads := increasing.movingDirection?_eq_some_iff.mp moving
          exact .moved heads fun _ member => nomatch member

end Trajectory

/-! ## Poses of vehicles that were seen -/

/-- A pose at a time of a vehicle that was seen at some times before. -/
structure Pose.IsOf (pose : Pose α) (vehicle : Trajectory α) (seen : List α) (time : α) :
    Prop where
  vehicle_eq : pose.vehicle = vehicle.id
  exists_bracket : ∃ place bracket, vehicle.IsBetween time place bracket ∧
    pose.position = bracket.position time ∧ pose.speed = bracket.current.speed
  /-- A vehicle that moves heads to where it moves. -/
  heading_moving : ∀ direction, vehicle.HeadsTo time direction → pose.heading = direction
  /-- A vehicle that stands heads to where it was last seen to move. -/
  heading_standing : vehicle.Stands time → vehicle.LastHeaded seen pose.heading

theorem Trajectory.IsIncreasing.isOf_of_poseWith? [OrderedScalar α] {vehicle : Trajectory α}
    {seen : List α} {time : α} {pose : Pose α} (increasing : vehicle.IsIncreasing)
    (found : vehicle.poseWith? time (vehicle.lastHeading seen) = some pose) :
    pose.IsOf vehicle seen time := by
  obtain ⟨bracket, isBracket, rfl⟩ := Option.map_eq_some_iff.mp found
  obtain ⟨place, between⟩ := increasing.bracket?_eq_some_iff.mp isBracket
  refine ⟨rfl, ⟨place, bracket, between, rfl, ?_⟩, ?_, ?_⟩
  · show (vehicle.speedAt? time).getD bracket.current.speed = bracket.current.speed
    rw [between.speedAt?_eq increasing, Option.getD_some]
  · intro direction heads
    show (vehicle.movingDirection? time).getD (vehicle.lastHeading seen) = direction
    rw [increasing.movingDirection?_eq_some_iff.mpr heads, Option.getD_some]
  · intro stands
    show vehicle.LastHeaded seen ((vehicle.movingDirection? time).getD (vehicle.lastHeading seen))
    rw [increasing.movingDirection?_eq_none_iff.mpr stands, Option.getD_none]
    exact increasing.lastHeaded_lastHeading seen

end JunctionReplay
