import JunctionReplay.Payload.Assembly
import JunctionReplay.Proofs.Trajectory.Normalize

/-!
# Samples of recorded vehicles

The trajectory of a recorded vehicle has one sample for each finite time that was recorded, in
strictly increasing order, and nothing that was not recorded.  Of several samples of one time the
earliest one in the record stays.

That the earliest one stays fails in one case.  Samples are sorted by a key that puts the negative
zero before the positive one, but dropped by equality, for which the two are the same.  So a sample
at the negative zero displaces one at the positive zero that was recorded before it.

## Main Statements

* `Payload.VehicleRecord.toTrajectory_one_sample_for_each_time` — what a trajectory holds.
* `Payload.VehicleRecord.toTrajectory_keeps_earliest_iff` — when the earliest samples are kept.
* `Payload.VehicleRecord.toTrajectory_displaced_zero` — a record of which one is not.
-/

namespace JunctionReplay

open Machine (rank HasRank)

namespace Trajectory

variable {samples : List (Sample Float)}

/-- In samples of strictly increasing times, exactly one equals a sample among them in time. -/
theorem countP_beq_eq_one {left : Sample Float} {time : Float}
    (increasing : samples.Pairwise fun a b => rank a.time < rank b.time)
    (member : left ∈ samples) (same : time == left.time) :
    samples.countP (fun sample => time == sample.time) = 1 := by
  have sameRank := (Machine.beq_iff.mp same).2
  obtain ⟨before, after, rfl⟩ := List.append_of_mem member
  obtain ⟨-, increasingRest, across⟩ := List.pairwise_append.mp increasing
  have noneBefore : before.countP (fun sample => time == sample.time) = 0 := by
    refine List.countP_eq_zero.mpr fun other otherMember => ?_
    have lt := across other otherMember left List.mem_cons_self
    rw [Machine.beq_iff]
    rintro ⟨-, otherRank⟩
    omega
  have noneAfter : after.countP (fun sample => time == sample.time) = 0 := by
    refine List.countP_eq_zero.mpr fun other otherMember => ?_
    have lt := (List.pairwise_cons.mp increasingRest).1 other otherMember
    rw [Machine.beq_iff]
    rintro ⟨-, otherRank⟩
    omega
  have here : (left :: after).countP (fun sample => time == sample.time) =
      after.countP (fun sample => time == sample.time) + 1 := List.countP_cons_of_pos same
  rw [List.countP_append, here, noneBefore, noneAfter]

/-! ## Displaced samples -/

/-- There are samples at the negative zero, and one at the positive zero comes before them all. -/
def HasDisplacedZero (samples : List (Sample Float)) : Prop :=
  (∃ sample ∈ samples, sample.time = -0.0) ∧
    ∃ first, earliestAt samples (-0.0) = some first ∧ first.time = 0.0

theorem isFinite_of_mem_normalize {sample : Sample Float} (member : sample ∈ normalize samples) :
    sample.time.isFinite :=
  (mem_timed.mp (mem_timed_of_mem_normalize member)).2

/-- Of the samples that equal a time, the earliest is also the earliest of its own exact time. -/
theorem earliestExactlyAt_of_earliestAt {first : Sample Float} {time : Float}
    (found : earliestAt samples time = some first) :
    earliestExactlyAt samples first.time = some first := by
  obtain ⟨same, before, after, rfl, others⟩ := List.find?_eq_some_iff_append.mp found
  refine List.find?_eq_some_iff_append.mpr ⟨decide_eq_true rfl, before, after, rfl, ?_⟩
  intro other member
  have different := others other member
  rw [Bool.not_eq_true', decide_eq_false_iff_not]
  intro sameTime
  rw [sameTime, same] at different
  cases different

/-- A sample that is kept is the earliest of its time unless it has displaced one. -/
theorem earliestAt_of_mem_normalize {sample : Sample Float} (member : sample ∈ normalize samples)
    (undisplaced : ¬ HasDisplacedZero samples) :
    earliestAt samples sample.time = some sample := by
  have finite := isFinite_of_mem_normalize member
  have ranked := Machine.hasRank_of_isFinite finite
  obtain ⟨earliest, least⟩ := (mem_normalize_iff finite).mp member
  have recorded := (mem_timed.mp (mem_timed_of_mem_normalize member)).1
  cases found : earliestAt samples sample.time with
  | none =>
      have itself := (beq_iff_of_ranked ranked ranked).mpr rfl
      exact absurd itself (List.find?_eq_none.mp found sample recorded)
  | some first =>
      have exactly := earliestExactlyAt_of_earliestAt found
      have same := beq_of_earliestAt found
      rcases eq_or_zeros_of_rank_eq (Machine.beq_iff.mp same).2 with sameTime | zeros | zeros
      · rw [sameTime] at exactly
        exact exactly.symm.trans earliest
      · -- The sample itself would not have been kept next to one at the negative zero.
        have firstMember : first ∈ timed samples := by
          refine mem_timed.mpr ⟨mem_of_earliestAt found, ?_⟩
          rw [zeros.1]
          decide
        have key := least first firstMember same
        rw [zeros.1, zeros.2] at key
        exact absurd key (by decide)
      · refine absurd ⟨⟨sample, recorded, zeros.2⟩, first, ?_, zeros.1⟩ undisplaced
        rw [zeros.2] at found
        exact found

/-- Where a sample is displaced, one at the negative zero is kept that is not the earliest. -/
theorem exists_not_earliestAt_of_hasDisplacedZero (displaced : HasDisplacedZero samples) :
    ∃ sample ∈ normalize samples, earliestAt samples sample.time ≠ some sample := by
  obtain ⟨⟨negative, member, negativeTime⟩, first, found, firstTime⟩ := displaced
  cases exactly : earliestExactlyAt samples (-0.0) with
  | none => exact absurd (decide_eq_true negativeTime) (List.find?_eq_none.mp exactly negative member)
  | some sample =>
      have time : sample.time = -0.0 :=
        of_decide_eq_true (List.find?_eq_some_iff_append.mp exactly).1
      have finite : sample.time.isFinite := by
        rw [time]
        decide
      refine ⟨sample, (mem_normalize_iff finite).mpr ⟨?_, ?_⟩, ?_⟩
      · rw [time]
        exact exactly
      · intro other otherMember same
        rcases eq_or_zeros_of_rank_eq (Machine.beq_iff.mp same).2 with sameTime | zeros | zeros
        · exact Int.le_of_eq (congrArg orderKey sameTime.symm)
        · rw [zeros.2] at time
          exact absurd time (by decide)
        · rw [zeros.1, zeros.2]
          decide
      · rw [time, found]
        intro same
        rw [Option.some.inj same, time] at firstTime
        exact absurd firstTime (by decide)

end Trajectory

namespace Payload.VehicleRecord

open Trajectory

/-- **One sample for each time.**  The samples of a trajectory are strictly increasing in time.  Each
was recorded, all of it together, with a finite time, and each finite time that was recorded is that
of exactly one of them.  Samples that come in order stay as they are, and otherwise the order in
which they come does not matter unless times are repeated. -/
theorem toTrajectory_one_sample_for_each_time (record : VehicleRecord) :
    record.toTrajectory.samples.Pairwise (fun a b => a.time < b.time) ∧
      (∀ sample ∈ record.toTrajectory.samples,
        sample ∈ record.samples ∧ sample.time.isFinite) ∧
      (∀ recorded ∈ record.samples, recorded.time.isFinite →
        record.toTrajectory.samples.countP (fun sample => recorded.time == sample.time) = 1) ∧
      ((timed record.samples).Pairwise (fun a b => a.time < b.time) →
        record.toTrajectory.samples = timed record.samples) ∧
      ∀ other : VehicleRecord, other.positions.Perm record.positions →
        (timed record.samples).Pairwise (fun a b => a.time ≠ b.time) →
        other.toTrajectory.samples = record.toTrajectory.samples := by
  have ranked := allRanked_timed record.samples
  have left : AllRanked (normalize record.samples) := fun sample member =>
    ranked sample (mem_timed_of_mem_normalize member)
  refine ⟨?_, ?_, ?_, ?_, ?_⟩
  · exact (pairwise_lt_iff left).mpr (pairwise_rank_normalize record.samples)
  · intro sample member
    exact mem_timed.mp (mem_timed_of_mem_normalize member)
  · intro recorded member finite
    obtain ⟨sample, sampleMember, same⟩ := exists_mem_normalize (mem_timed.mpr ⟨member, finite⟩)
    exact countP_beq_eq_one (pairwise_rank_normalize record.samples) sampleMember same
  · intro increasing
    have ordered := (isOrdered_iff ranked).mpr ((pairwise_lt_iff ranked).mp increasing)
    exact if_pos ordered
  · intro other perm distinct
    have sameSamples : (timed other.samples).Perm (timed record.samples) :=
      (perm.map _).filter _
    change normalize other.samples = normalize record.samples
    rw [normalize_eq, normalize_eq, sortByTime_eq_of_perm sameSamples distinct]

/-- Two samples that come the wrong way round change places. -/
theorem toTrajectory_one_sample_for_each_time_two_samples :
    let record : VehicleRecord := ⟨"vehicle", [⟨2.0, 5.0, 0.0, 9.0⟩, ⟨1.0, 4.0, 0.0, 8.0⟩]⟩
    record.toTrajectory.samples = [⟨1.0, 4.0, 0.0, 8.0⟩, ⟨2.0, 5.0, 0.0, 9.0⟩] ∧
      record.toTrajectory.samples.countP (fun sample => 2.0 == sample.time) = 1 := by
  intro record
  let inOrder : VehicleRecord := ⟨"vehicle", record.positions.reverse⟩
  obtain ⟨-, -, counted, -, sameForOther⟩ := toTrajectory_one_sample_for_each_time record
  obtain ⟨-, -, -, unchanged, -⟩ := toTrajectory_one_sample_for_each_time inOrder
  have same : inOrder.toTrajectory.samples = record.toTrajectory.samples :=
    sameForOther inOrder (List.reverse_perm _) (by decide)
  have stays : inOrder.toTrajectory.samples = timed inOrder.samples := unchanged (by decide)
  refine ⟨same.symm.trans (stays.trans (by decide)), ?_⟩
  exact counted ⟨2.0, 5.0, 0.0, 9.0⟩ (by decide) (by decide)

/-- **When the earliest sample is kept.**  The samples of a trajectory are the earliest ones of their
times in the record, except if one at the negative zero displaces one at the positive zero that was
recorded before it.  In any case they are the earliest ones of exactly their times. -/
theorem toTrajectory_keeps_earliest_iff (record : VehicleRecord) :
    ((∀ sample ∈ record.toTrajectory.samples,
        earliestAt record.samples sample.time = some sample) ↔
      ¬ HasDisplacedZero record.samples) ∧
      ∀ sample ∈ record.toTrajectory.samples,
        earliestExactlyAt record.samples sample.time = some sample := by
  refine ⟨⟨fun earliest displaced => ?_, fun undisplaced sample member => ?_⟩,
    fun sample member => ?_⟩
  · obtain ⟨sample, member, notEarliest⟩ := exists_not_earliestAt_of_hasDisplacedZero displaced
    exact notEarliest (earliest sample member)
  · exact earliestAt_of_mem_normalize member undisplaced
  · exact ((mem_normalize_iff (isFinite_of_mem_normalize member)).mp member).1

/-- **A displaced sample.**  Of a sample at the positive zero and a later one at the negative zero,
which are equal, the later one is kept. -/
theorem toTrajectory_displaced_zero :
    let record : VehicleRecord := ⟨"vehicle", [⟨0.0, 1.0, 0.0, 0.0⟩, ⟨-0.0, 2.0, 0.0, 0.0⟩]⟩
    (∀ sample ∈ record.samples, sample.time.isFinite) ∧
      ¬ ∀ sample ∈ record.toTrajectory.samples,
        earliestAt record.samples sample.time = some sample := by
  refine ⟨by decide, fun earliest => ?_⟩
  have finite : (⟨-0.0, 2.0, 0.0, 0.0⟩ : Sample Float).time.isFinite := by decide
  have kept : (⟨-0.0, 2.0, 0.0, 0.0⟩ : Sample Float) ∈
      normalize [⟨0.0, 1.0, 0.0, 0.0⟩, ⟨-0.0, 2.0, 0.0, 0.0⟩] :=
    (mem_normalize_iff finite).mpr ⟨by decide, by decide⟩
  exact absurd (earliest _ kept) (by decide)

end Payload.VehicleRecord

end JunctionReplay
