import JunctionReplay.Proofs.Scalar.Order
import JunctionReplay.Run

/-!
# The frames of a run

In exact arithmetic a run with a positive delta comes to its end: every frame takes it a delta
further, and the frames that it is followed for take it past its duration.  What every frame keeps
up holds in front of the last one, too.

## Main Statements

* `Run.exists_playFrom_eq_some` — a run that has enough frames to go comes to its end.
* `Run.exists_play_eq_some` — so does every run from its start.
-/

namespace JunctionReplay.Run

variable {delta duration : Rat}

/-- The frames that a run is followed for take it past its duration. -/
theorem duration_le_frameLimit (forward : 0 < delta) (duration : Rat) :
    duration ≤ frameLimit delta duration * delta := by
  let units := Scalar.wholeUnits (duration / delta)
  have floor : (duration / delta).floor + 1 ≤ ((units + 1 : Nat) : Int) := by
    have whole : (duration / delta).floor ≤ (units : Int) := Int.self_le_toNat _
    omega
  have quotient : duration / delta < (units + 1 : Nat) := by
    have next := Rat.lt_floor_add_one (duration / delta)
    have cast := Rat.intCast_le_intCast.mpr floor
    rw [Rat.intCast_natCast] at cast
    exact Scalar.lt_of_lt_of_le next cast
  have limit : frameLimit delta duration = 2 * units + 2 := if_pos forward
  have more : ((units + 1 : Nat) : Rat) ≤ (2 * units + 2 : Nat) :=
    Rat.natCast_le_natCast.mpr (by omega)
  rw [limit]
  calc duration
      ≤ (units + 1 : Nat) * delta := Rat.le_of_lt ((Rat.div_lt_iff forward).mp quotient)
    _ ≤ (2 * units + 2 : Nat) * delta :=
      Rat.mul_le_mul_of_nonneg_right more (Rat.le_of_lt forward)

variable [Planar Rat] {Holds : Run Rat → Prop}

theorem isOver_advance_iff {run : Run Rat} :
    (run.advance delta).next.isOver duration ↔ duration ≤ run.elapsed + delta :=
  decide_eq_true_iff

/-- A run that has enough frames to go comes to its end, by a frame that was shown by a run for
which everything holds that frames keep up. -/
theorem exists_playFrom_eq_some
    (keeps : ∀ run : Run Rat, Holds run → Holds (run.advance delta).next)
    (reports : List (RunFrame Rat)) {fuel : Nat} (nonzero : fuel ≠ 0) {run : Run Rat}
    (holds : Holds run) (enough : duration ≤ run.elapsed + fuel * delta) :
    ∃ summary before, playFrom delta duration reports fuel run = some summary ∧
      Holds before ∧ summary.last = before.advance delta ∧
      duration ≤ before.elapsed + delta := by
  -- On the frames that are left: where the run is not over, one frame less is still enough.
  induction fuel generalizing run reports with
  | zero => exact absurd rfl nonzero
  | succ fuel ih =>
      unfold playFrom
      dsimp only
      by_cases isLast : (run.advance delta).next.isOver duration
      · rw [if_pos isLast]
        exact ⟨_, run, rfl, holds, rfl, isOver_advance_iff.mp isLast⟩
      · have goesOn : run.elapsed + delta < duration :=
          Rat.not_le.mp fun le => isLast (isOver_advance_iff.mpr le)
        have further : duration ≤ run.elapsed + delta + fuel * delta := by grind
        have notLast : fuel ≠ 0 := by
          rintro rfl
          grind
        rw [if_neg isLast]
        exact ih _ notLast (keeps run holds) further

/-- From its start on, a run comes to its end. -/
theorem exists_play_eq_some (duration : Rat) (forward : 0 < delta)
    (keeps : ∀ run : Run Rat, Holds run → Holds (run.advance delta).next)
    {view : Comparison Rat} (starts : Holds (start view)) :
    ∃ summary before, play view delta duration = some summary ∧
      Holds before ∧ summary.last = before.advance delta ∧
      duration ≤ before.elapsed + delta := by
  have enough : duration ≤ (start view).elapsed + frameLimit delta duration * delta := by
    change duration ≤ 0 + frameLimit delta duration * delta
    rw [Rat.zero_add]
    exact duration_le_frameLimit forward duration
  have nonzero : frameLimit delta duration ≠ 0 := by
    rw [frameLimit, if_pos forward]
    omega
  exact exists_playFrom_eq_some keeps [] nonzero starts enough

end JunctionReplay.Run
