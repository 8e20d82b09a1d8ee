import JunctionReplay.Proofs.Session.ElapsedTime

/-!
# Sessions in step

Two sessions with the same settings that are given the same operations go alike, whatever they
replay: a clock goes by the settings and by what it is told.  All that it takes from the store is
whether there is something to replay at all, since a session with nothing to replay stands still.
Only in that do the times of the two come apart, and never the paces.

## Main Definitions

* `Session.InStep` — two sessions whose clocks go alike.

## Main Statements

* `Session.start_inStep` — sessions start in step.
* `Session.InStep.step`, `Session.InStep.run` — the same operations keep them in step.
-/

namespace JunctionReplay

variable {α : Type} [Scalar α]

/-- What an operation makes of the time takes from the store whether there is something to
replay. -/
theorem Store.timeAfter_congr {store other : Store α}
    (alike : 0 < store.maxEndTime ↔ 0 < other.maxEndTime) (pace : Session.Pace α) (time : α)
    (op : Session.Op α) : store.timeAfter pace time op = other.timeAfter pace time op := by
  have additions : store.addition? pace op = other.addition? pace op := by
    cases op with
    | tick delta => simp only [addition?, alike]
    | play | pause | toggle | restart | setSpeed | frame => rfl
  rw [timeAfter, timeAfter, additions]

namespace Session

variable {session other next nextOther last lastOther : Session α}

/-- What becomes of the pace of a clock when its speed is set. -/
theorem paceOf_setSpeed (clock : Clock α) (speed : α) :
    paceOf (clock.setSpeed speed) =
      if Clock.isSpeed speed then { paceOf clock with speed := speed } else paceOf clock := by
  unfold Clock.setSpeed
  split <;> rfl

/-- The clocks of two sessions go at the same pace, and they show the same time if both have
something to replay, or neither has. -/
structure InStep (session other : Session α) : Prop where
  settings_eq : session.settings = other.settings
  pace_eq : paceOf session.clock = paceOf other.clock
  time_eq : (0 < session.store.maxEndTime ↔ 0 < other.store.maxEndTime) →
    session.clock.time = other.clock.time

/-- Sessions start in step. -/
theorem start_inStep {store otherStore : Store α} {config : Config α}
    (started : start store config = .ok session)
    (startedOther : start otherStore config = .ok other) : InStep session other := by
  obtain ⟨speed, clamped, rfl⟩ := start_eq_ok_iff.mp started
  obtain ⟨speedOther, clampedOther, rfl⟩ := start_eq_ok_iff.mp startedOther
  obtain rfl := Except.ok.inj (clamped.symm.trans clampedOther)
  exact ⟨rfl, rfl, fun _ => rfl⟩

namespace InStep

theorem setPlaying (inStep : InStep session other) (isPlaying : Bool) :
    InStep (session.setPlaying isPlaying) (other.setPlaying isPlaying) where
  settings_eq := inStep.settings_eq
  pace_eq := congrArg (fun pace => { pace with isPlaying := isPlaying }) inStep.pace_eq
  time_eq := inStep.time_eq

theorem restart (inStep : InStep session other) : InStep session.restart other.restart where
  settings_eq := inStep.settings_eq
  pace_eq := inStep.pace_eq
  time_eq _ := rfl

/-- Both settings allow the same speeds, so both clocks get the same one or refuse it. -/
theorem setSpeed (inStep : InStep session other) {speed : α}
    (set : session.setSpeed speed = .ok next) (setOther : other.setSpeed speed = .ok nextOther) :
    InStep next nextOther := by
  obtain ⟨allowed, clamped, rfl⟩ := setSpeed_eq_ok_iff.mp set
  obtain ⟨allowedOther, clampedOther, rfl⟩ := setSpeed_eq_ok_iff.mp setOther
  rw [← inStep.settings_eq] at clampedOther
  obtain rfl := Except.ok.inj (clamped.symm.trans clampedOther)
  refine ⟨inStep.settings_eq, ?_, fun alike => ?_⟩
  · rw [paceOf_setSpeed, paceOf_setSpeed, inStep.pace_eq]
  · rw [Clock.time_setSpeed, Clock.time_setSpeed, inStep.time_eq alike]

theorem advance (inStep : InStep session other) (delta : α) :
    InStep (session.advance delta) (other.advance delta) := by
  have kept (session : Session α) : (session.advance delta).settings = session.settings ∧
      (session.advance delta).store = session.store := by
    unfold Session.advance
    split <;> exact ⟨rfl, rfl⟩
  refine ⟨?_, ?_, fun alike => ?_⟩
  · rw [(kept session).1, (kept other).1, inStep.settings_eq]
  · rw [paceOf_advance, paceOf_advance, inStep.pace_eq]
  · rw [(kept session).2, (kept other).2] at alike
    rw [time_advance, time_advance, inStep.pace_eq, inStep.time_eq alike,
      Store.timeAfter_congr alike]

variable [Planar α]

theorem afterFrame (inStep : InStep session other) :
    InStep session.afterFrame other.afterFrame where
  settings_eq := inStep.settings_eq
  pace_eq := inStep.pace_eq
  time_eq := inStep.time_eq

/-- The same operation keeps two sessions in step. -/
theorem step {op : Op α} {shown shownOther : Option (Frame α)} (inStep : InStep session other)
    (stepped : session.step op = .ok (next, shown))
    (steppedOther : other.step op = .ok (nextOther, shownOther)) : InStep next nextOther := by
  cases op with
  | play | pause =>
      cases stepped
      cases steppedOther
      exact inStep.setPlaying _
  | toggle =>
      have running : session.clock.isPlaying = other.clock.isPlaying :=
        congrArg Pace.isPlaying inStep.pace_eq
      cases stepped
      cases steppedOther
      rw [running]
      exact inStep.setPlaying _
  | restart =>
      cases stepped
      cases steppedOther
      exact inStep.restart
  | setSpeed speed =>
      obtain ⟨set, -⟩ := step_setSpeed_eq_ok_iff.mp stepped
      obtain ⟨setOther, -⟩ := step_setSpeed_eq_ok_iff.mp steppedOther
      exact inStep.setSpeed set setOther
  | tick delta =>
      cases stepped
      cases steppedOther
      exact (inStep.advance delta).afterFrame
  | frame =>
      cases stepped
      cases steppedOther
      exact inStep.afterFrame

/-- The same sequence of operations keeps two sessions in step. -/
theorem run {ops : List (Op α)} {frames framesOther : List (Frame α)}
    (inStep : InStep session other) (ran : session.run ops = .ok (last, frames))
    (ranOther : other.run ops = .ok (lastOther, framesOther)) : InStep last lastOther := by
  induction ops generalizing session other frames framesOther with
  | nil =>
      cases ran
      cases ranOther
      exact inStep
  | cons op rest ih =>
      obtain ⟨next, shown, later, stepped, ranRest, -⟩ := run_cons_eq_ok_iff.mp ran
      obtain ⟨nextOther, shownOther, laterOther, steppedOther, ranRestOther, -⟩ :=
        run_cons_eq_ok_iff.mp ranOther
      exact ih (inStep.step stepped steppedOther) ranRest ranRestOther

end InStep

end Session

end JunctionReplay
