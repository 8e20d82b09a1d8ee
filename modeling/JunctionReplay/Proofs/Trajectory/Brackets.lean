import Mathlib.Data.List.TakeWhile
import JunctionReplay.Proofs.Trajectory.Stages

/-!
# Brackets of times

In samples that are strictly increasing in time, those that are not later than a time stand in front
of all others.  So it is enough to count them, and the count decides everything that is looked up:
the last sample that is not later, the first one that is, and whether there are both.

Where there are both, they are the one bracket that holds the time.  This takes that the time is not
before the first sample and that it is before the last one, so at its last sample a vehicle is still
on its way but already between no two samples.

## Main Definitions

* `Trajectory.IsBetween` — a time is held by the bracket at a place.
* `Trajectory.endsAt` — whether a trajectory ends exactly at a time.

## Main Statements

* `Trajectory.IsIncreasing.lt_samplesUntil_iff` — which samples are counted.
* `Trajectory.IsIncreasing.bracket?_eq_some_iff` — the bracket that is found is the one that holds
  the time.
* `Trajectory.IsIncreasing.exists_bracket?_iff` — when there is one.
* `Trajectory.IsIncreasing.speedAt?_eq` — the speed that is found.
* `Trajectory.IsIncreasing.pose?_eq_some_iff` — the pose that is found.
* `Trajectory.IsIncreasing.isSome_bracket?_eq` — there is a bracket for the vehicles on their way,
  but not at their last sample.
-/

namespace JunctionReplay

variable {α : Type} [Scalar α]

namespace Trajectory

/-- A time lies between the sample at a place, at which it may be, and the next one. -/
structure IsBetween (trajectory : Trajectory α) (time : α) (place : Nat) (bracket : Bracket α) :
    Prop where
  current_eq : trajectory.samples[place]? = some bracket.current
  next_eq : trajectory.samples[place + 1]? = some bracket.next
  current_le : bracket.current.time ≤ time
  lt_next : time < bracket.next.time

/-- Whether the last sample is at a time, neither before it nor after it. -/
def endsAt (trajectory : Trajectory α) (time : α) : Bool :=
  match trajectory.endTime? with
  | some finish => finish ≤ time && time ≤ finish
  | none => false

variable {trajectory : Trajectory α} {time start finish : α} {place other : Nat}
  {sample : Sample α} {bracket otherBracket : Bracket α}

theorem endsAt_iff :
    trajectory.endsAt time ↔
      ∃ finish, trajectory.endTime? = some finish ∧ finish ≤ time ∧ time ≤ finish := by
  unfold endsAt
  cases trajectory.endTime? with
  | none => simp
  | some finish => simp

variable [OrderedScalar α]

/-! ## Counting samples -/

/-- A time splits the samples: those up to it stand in front of the later ones. -/
theorem IsIncreasing.exists_split (increasing : trajectory.IsIncreasing) (time : α) :
    ∃ before after, trajectory.samples = before ++ after ∧
      trajectory.samplesUntil time = before.length ∧
      (∀ sample ∈ before, sample.time ≤ time) ∧ ∀ sample ∈ after, ¬ sample.time ≤ time := by
  let isUntil (sample : Sample α) : Bool := sample.time ≤ time
  refine ⟨trajectory.samples.takeWhile isUntil, trajectory.samples.dropWhile isUntil,
    List.takeWhile_append_dropWhile.symm, rfl, ?_, ?_⟩
  · intro sample member
    exact of_decide_eq_true (List.mem_takeWhile_imp (p := isUntil) member)
  · cases left : trajectory.samples.dropWhile isUntil with
    | nil => simp
    | cons first rest =>
        have firstLater : ¬ first.time ≤ time := by
          have stops := List.head?_dropWhile_not isUntil trajectory.samples
          rw [left] at stops
          simpa [isUntil] using stops
        have ordered : (first :: rest).Pairwise fun earlier later => earlier.time < later.time :=
          increasing.sublist (left ▸ List.dropWhile_sublist isUntil)
        intro sample member notLater
        rcases List.mem_cons.mp member with rfl | behind
        · exact firstLater notLater
        · have below := Scalar.le_of_lt (List.rel_of_pairwise_cons ordered behind)
          exact firstLater (OrderedScalar.le_trans below notLater)

/-- The samples that are counted are those that are not later. -/
theorem IsIncreasing.lt_samplesUntil_iff (increasing : trajectory.IsIncreasing) (time : α)
    (found : trajectory.samples[place]? = some sample) :
    place < trajectory.samplesUntil time ↔ sample.time ≤ time := by
  obtain ⟨before, after, split, count, upTo, later⟩ := increasing.exists_split time
  rw [split] at found
  rw [count]
  constructor
  · intro inFront
    rw [List.getElem?_append_left inFront] at found
    exact upTo sample (List.mem_of_getElem? found)
  · intro notLater
    by_contra behind
    rw [List.getElem?_append_right (Nat.le_of_not_lt behind)] at found
    exact later sample (List.mem_of_getElem? found) notLater

/-! ## The bracket of a time -/

/-- A bracket that holds the time ends the samples that are counted. -/
theorem IsBetween.samplesUntil_eq (between : trajectory.IsBetween time place bracket)
    (increasing : trajectory.IsIncreasing) : trajectory.samplesUntil time = place + 1 := by
  have counted := (increasing.lt_samplesUntil_iff time between.current_eq).mpr between.current_le
  have notCounted := mt (increasing.lt_samplesUntil_iff time between.next_eq).mp
    (Scalar.not_le_of_lt between.lt_next)
  omega

/-- No other bracket holds the time. -/
theorem IsBetween.unique (between : trajectory.IsBetween time place bracket)
    (increasing : trajectory.IsIncreasing)
    (otherBetween : trajectory.IsBetween time other otherBracket) :
    other = place ∧ otherBracket = bracket := by
  have samePlace : other = place := by
    have count := between.samplesUntil_eq increasing
    have otherCount := otherBetween.samplesUntil_eq increasing
    omega
  subst samePlace
  have current := Option.some.inj (otherBetween.current_eq.symm.trans between.current_eq)
  have next := Option.some.inj (otherBetween.next_eq.symm.trans between.next_eq)
  cases otherBracket
  cases bracket
  simp_all

/-- The bracket that is found is the one that holds the time. -/
theorem IsIncreasing.bracket?_eq_some_iff (increasing : trajectory.IsIncreasing) :
    trajectory.bracket? time = some bracket ↔
      ∃ place, trajectory.IsBetween time place bracket := by
  constructor
  · intro found
    unfold bracket? at found
    split at found
    next => cases found
    next place count =>
      split at found
      next current next currentFound nextFound =>
        cases found
        have currentLe := (increasing.lt_samplesUntil_iff time currentFound).mp (by omega)
        have nextLater := mt (increasing.lt_samplesUntil_iff time nextFound).mpr (by omega)
        have below : current.time < next.time := by
          obtain ⟨currentWithin, rfl⟩ := List.getElem?_eq_some_iff.mp currentFound
          obtain ⟨nextWithin, rfl⟩ := List.getElem?_eq_some_iff.mp nextFound
          exact List.pairwise_iff_getElem.mp increasing _ _ currentWithin nextWithin (by omega)
        -- Both are numbers, so that what is not up to the time is after it.
        have beforeNext := Scalar.lt_of_not_le (OrderedScalar.isNumber_of_le currentLe).2
          (Scalar.isNumber_of_lt below).2 nextLater
        exact ⟨place, currentFound, nextFound, currentLe, beforeNext⟩
      next => cases found
  · rintro ⟨place, between⟩
    unfold bracket?
    rw [between.samplesUntil_eq increasing]
    simp only [between.current_eq, between.next_eq]

/-- A time that is held by a bracket is not before the first sample, and before the last one. -/
theorem IsBetween.exists_ends (between : trajectory.IsBetween time place bracket)
    (increasing : trajectory.IsIncreasing) :
    ∃ start finish, trajectory.startTime? = some start ∧ trajectory.endTime? = some finish ∧
      start ≤ time ∧ time < finish := by
  obtain ⟨nextWithin, isNext⟩ := List.getElem?_eq_some_iff.mp between.next_eq
  have firstWithin : 0 < trajectory.samples.length := by omega
  have lastWithin : trajectory.samples.length - 1 < trajectory.samples.length := by omega
  have isFirst := List.getElem?_eq_getElem firstWithin
  have isLast := List.getElem?_eq_getElem lastWithin
  refine ⟨trajectory.samples[0].time, trajectory.samples[trajectory.samples.length - 1].time,
    ?_, ?_, ?_, ?_⟩
  · rw [startTime?, List.head?_eq_getElem?, isFirst]
    rfl
  · rw [endTime?, List.getLast?_eq_getElem?, isLast]
    rfl
  · refine (increasing.lt_samplesUntil_iff time isFirst).mp ?_
    rw [between.samplesUntil_eq increasing]
    exact Nat.succ_pos place
  · -- The next sample is the last one, or the last one comes after it.
    have notLater : time < trajectory.samples[place + 1].time := isNext ▸ between.lt_next
    rcases Nat.lt_or_eq_of_le (Nat.le_sub_one_of_lt nextWithin) with earlier | same
    · have below := List.pairwise_iff_getElem.mp increasing _ _ nextWithin lastWithin earlier
      exact Scalar.lt_of_lt_of_le notLater (Scalar.le_of_lt below)
    · simpa only [← same] using notLater

/-- There is a bracket exactly from the first sample on and before the last one. -/
theorem IsIncreasing.exists_bracket?_iff (increasing : trajectory.IsIncreasing) :
    (∃ bracket, trajectory.bracket? time = some bracket) ↔
      ∃ start finish, trajectory.startTime? = some start ∧ trajectory.endTime? = some finish ∧
        start ≤ time ∧ time < finish := by
  constructor
  · rintro ⟨bracket, found⟩
    obtain ⟨place, between⟩ := increasing.bracket?_eq_some_iff.mp found
    exact between.exists_ends increasing
  · rintro ⟨start, finish, starts, ends, lower, upper⟩
    obtain ⟨first, isFirst, rfl⟩ := Option.map_eq_some_iff.mp starts
    obtain ⟨last, isLast, rfl⟩ := endTime?_eq_some_iff.mp ends
    rw [List.head?_eq_getElem?] at isFirst
    rw [List.getLast?_eq_getElem?] at isLast
    -- The first sample is counted and the last one is not, so the count stops in between.
    have counted := (increasing.lt_samplesUntil_iff time isFirst).mpr lower
    have notCounted :=
      mt (increasing.lt_samplesUntil_iff time isLast).mp (Scalar.not_le_of_lt upper)
    obtain ⟨place, count⟩ := Nat.exists_eq_add_one.mpr counted
    have lastWithin := (List.getElem?_eq_some_iff.mp isLast).1
    have currentFound := List.getElem?_eq_getElem (l := trajectory.samples) (i := place) (by omega)
    have nextFound :=
      List.getElem?_eq_getElem (l := trajectory.samples) (i := place + 1) (by omega)
    unfold bracket?
    rw [count]
    simp only [currentFound, nextFound]
    exact ⟨_, rfl⟩

/-! ## The speed at a time -/

/-- The speed that is found is that of the last sample that is not later, or of the first sample. -/
theorem IsIncreasing.speedAt?_eq (increasing : trajectory.IsIncreasing) (time : α) :
    trajectory.speedAt? time =
      ((trajectory.samples.filter fun sample => sample.time ≤ time).getLast?.or
        trajectory.samples.head?).map Sample.speed := by
  obtain ⟨before, after, split, count, upTo, later⟩ := increasing.exists_split time
  have kept : trajectory.samples.filter (fun sample => sample.time ≤ time) = before := by
    have all : before.filter (fun sample => sample.time ≤ time) = before :=
      List.filter_eq_self.mpr fun sample member => decide_eq_true (upTo sample member)
    have none : after.filter (fun sample => sample.time ≤ time) = [] :=
      List.filter_eq_nil_iff.mpr fun sample member => by simpa using later sample member
    rw [split, List.filter_append, all, none, List.append_nil]
  rw [speedAt?, kept, count, split]
  rcases List.eq_nil_or_concat before with rfl | ⟨front, last, rfl⟩
  · simp [List.head?_eq_getElem?]
  · simp

theorem IsBetween.speedAt?_eq (between : trajectory.IsBetween time place bracket)
    (increasing : trajectory.IsIncreasing) :
    trajectory.speedAt? time = some bracket.current.speed := by
  unfold speedAt?
  rw [between.samplesUntil_eq increasing, Nat.add_sub_cancel, between.current_eq]
  rfl

/-! ## The pose at a time -/

/-- A pose is that of the bracket that holds the time, at the speed of its first sample. -/
theorem IsIncreasing.pose?_eq_some_iff [Planar α] {previous : α} {pose : Pose α}
    (increasing : trajectory.IsIncreasing) :
    trajectory.pose? time previous = some pose ↔
      ∃ place bracket, trajectory.IsBetween time place bracket ∧
        pose = ⟨trajectory.id, bracket.position time, bracket.heading previous,
          bracket.current.speed⟩ := by
  unfold pose?
  rw [Option.map_eq_some_iff]
  constructor
  · rintro ⟨bracket, found, rfl⟩
    obtain ⟨place, between⟩ := increasing.bracket?_eq_some_iff.mp found
    refine ⟨place, bracket, between, ?_⟩
    rw [between.speedAt?_eq increasing, Option.getD_some]
  · rintro ⟨place, bracket, between, rfl⟩
    refine ⟨bracket, increasing.bracket?_eq_some_iff.mpr ⟨place, between⟩, ?_⟩
    rw [between.speedAt?_eq increasing, Option.getD_some]

/-- A bracket holds the time exactly if the vehicle is on its way and not at its last sample. -/
theorem IsIncreasing.isSome_bracket?_eq (increasing : trajectory.IsIncreasing) (time : α) :
    (trajectory.bracket? time).isSome =
      (trajectory.isActiveAt time && !trajectory.endsAt time) := by
  rw [Bool.eq_iff_iff, Option.isSome_iff_exists, increasing.exists_bracket?_iff,
    Bool.and_eq_true, Bool.not_eq_true', ← Bool.not_eq_true, isActiveAt_iff, endsAt_iff]
  constructor
  · rintro ⟨start, finish, starts, ends, lower, upper⟩
    refine ⟨⟨start, finish, starts, ends, lower, Scalar.le_of_lt upper⟩, ?_⟩
    rintro ⟨other, otherEnds, reached, -⟩
    obtain rfl := Option.some.inj (ends.symm.trans otherEnds)
    exact Scalar.not_le_of_lt upper reached
  · rintro ⟨⟨start, finish, starts, ends, lower, upper⟩, notEnding⟩
    have notReached : ¬ finish ≤ time := fun reached => notEnding ⟨finish, ends, reached, upper⟩
    have numbers := OrderedScalar.isNumber_of_le upper
    exact ⟨start, finish, starts, ends, lower,
      Scalar.lt_of_not_le numbers.1 numbers.2 notReached⟩

/-- Of several vehicles those with a bracket are those on their way that do not end there. -/
theorem filter_isSome_bracket? {vehicles : List (Trajectory α)}
    (increasing : ∀ vehicle ∈ vehicles, vehicle.IsIncreasing) (time : α) :
    (vehicles.filter fun vehicle => (vehicle.bracket? time).isSome) =
      vehicles.filter fun vehicle => vehicle.isActiveAt time && !vehicle.endsAt time := by
  apply List.filter_congr
  intro vehicle member
  exact (increasing vehicle member).isSome_bracket?_eq time

/-- At the time of its last sample a vehicle is still on its way. -/
theorem IsIncreasing.isActiveAt_of_endsAt (increasing : trajectory.IsIncreasing)
    (numbers : ∀ sample ∈ trajectory.samples, Scalar.IsNumber sample.time)
    (ending : trajectory.endsAt time) : trajectory.isActiveAt time := by
  obtain ⟨finish, ends, reached, notPast⟩ := endsAt_iff.mp ending
  obtain ⟨start, starts⟩ := exists_startTime?_iff.mpr ⟨finish, ends⟩
  have ordered := increasing.startTime_le_endTime numbers starts ends
  exact isActiveAt_iff.mpr
    ⟨start, finish, starts, ends, OrderedScalar.le_trans ordered reached, notPast⟩

end Trajectory

end JunctionReplay
