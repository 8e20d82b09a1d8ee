import Mathlib.Data.List.DropRight
import JunctionReplay.Proofs.Scalar.Monotone
import JunctionReplay.Proofs.Session.Speed

/-!
# The time of a session

The clock of a session adds up what its ticks are worth: each of them as much as the real time that
it is given, at the speed that the clock has by then.  What a tick is worth depends on all that was
done before, since earlier operations leave the clock running or paused and at some speed, so the
time is the sum over a history in which each operation stands with the pace at which it found the
clock.

Nothing is taken from the time but by a restart.  Every tick that counts is worth a number that is
not negative, and such numbers have such a sum even where it leaves the finite numbers, so the time
is never negative and never undefined.

## Main Definitions

* `Session.Pace` — the speed of a clock, and whether it runs; `Pace.after` follows the operations.
* `Session.history` — the operations of a sequence with the paces at which they find the clock.
* `Store.elapsed` — what the ticks since the last restart add up to.

## Main Statements

* `Session.step_clock` — what one operation makes of the pace and the time.
* `Session.run_clock` — what a sequence of operations makes of them.
* `Session.run_time_eq_elapsed` — what this means for a session from its start on.
-/

namespace JunctionReplay

open Scalar (IsNumber)

variable {α : Type} [Scalar α]

namespace Session

/-! ## Paces -/

/-- How a clock goes: its speed, and whether it runs. -/
structure Pace (α : Type) where
  speed : α
  isPlaying : Bool
  deriving DecidableEq, Repr

/-- The pace of a clock. -/
def paceOf (clock : Clock α) : Pace α := ⟨clock.speed, clock.isPlaying⟩

/-- The pace that a session starts with. -/
def Pace.first (settings : PlaybackSettings α) : Pace α where
  speed := settings.initialSpeed
  isPlaying := settings.startsPlaying

/-- The pace that an operation leaves.  A number sets the allowed speed that is nearest to it. -/
def Pace.after (settings : PlaybackSettings α) (pace : Pace α) : Op α → Pace α
  | .play => { pace with isPlaying := true }
  | .pause => { pace with isPlaying := false }
  | .toggle => { pace with isPlaying := !pace.isPlaying }
  | .setSpeed speed =>
    if IsNumber speed then
      { pace with speed := Scalar.clamp settings.minSpeed settings.maxSpeed speed }
    else pace
  | .restart | .tick _ | .frame => pace

/-- The operations of a sequence, each with the pace at which it finds the clock. -/
def history (settings : PlaybackSettings α) (pace : Pace α) : List (Op α) → List (Pace α × Op α)
  | [] => []
  | op :: rest => (pace, op) :: history settings (pace.after settings op) rest

theorem history_concat (settings : PlaybackSettings α) (pace : Pace α) (ops : List (Op α))
    (op : Op α) :
    history settings pace (ops ++ [op]) =
      history settings pace ops ++ [(ops.foldl (Pace.after settings) pace, op)] := by
  induction ops generalizing pace with
  | nil => rfl
  | cons first rest ih => simp only [List.cons_append, history, ih, List.foldl_cons]

/-- Whether an operation goes back to the start. -/
def Op.isRestart : Op α → Bool
  | .restart => true
  | _ => false

omit [Scalar α] in
theorem Op.isRestart_iff {op : Op α} : op.isRestart ↔ op = .restart := by
  cases op <;> simp [isRestart]

end Session

open Session

/-! ## Elapsed time -/

/-- What an operation adds to the time: a tick of a store that has something to replay adds the real
time that it is given at the speed of the clock, if the clock runs and the real time is finite and
not negative. -/
def Store.addition? (store : Store α) (pace : Pace α) : Op α → Option α
  | .tick delta =>
    if 0 < store.maxEndTime ∧ pace.isPlaying ∧ Scalar.isFinite delta ∧ ¬ delta < 0 then
      some (delta * pace.speed)
    else none
  | _ => none

/-- The sum, from left to right, of what the operations since the last restart add. -/
def Store.elapsed (store : Store α) (history : List (Pace α × Op α)) : α :=
  ((history.rtakeWhile fun done => !done.2.isRestart).filterMap fun done =>
    store.addition? done.1 done.2).foldl (· + ·) 0

/-- What an operation makes of the time. -/
def Store.timeAfter (store : Store α) (pace : Pace α) (time : α) (op : Op α) : α :=
  if op.isRestart then 0 else (store.addition? pace op).elim time (time + ·)

theorem Store.elapsed_concat (store : Store α) (history : List (Pace α × Op α)) (pace : Pace α)
    (op : Op α) :
    store.elapsed (history ++ [(pace, op)]) = store.timeAfter pace (store.elapsed history) op := by
  unfold elapsed timeAfter
  by_cases restarts : op.isRestart
  · rw [List.rtakeWhile_concat_neg _ _ _ (by simp [restarts]), if_pos restarts]
    rfl
  · rw [List.rtakeWhile_concat_pos _ _ _ (by simp [restarts]), if_neg restarts,
      List.filterMap_append, List.foldl_append]
    cases added : store.addition? pace op with
    | none => simp [added]
    | some amount => simp [added]

theorem Store.addition?_of_not_pos {store : Store α} (empty : ¬ 0 < store.maxEndTime)
    (pace : Pace α) (op : Op α) : store.addition? pace op = none := by
  cases op with
  | tick delta => exact if_neg fun counts => empty counts.1
  | play | pause | toggle | restart | setSpeed | frame => rfl

/-- With nothing to replay no time passes. -/
theorem Store.elapsed_of_not_pos {store : Store α} (empty : ¬ 0 < store.maxEndTime)
    (history : List (Pace α × Op α)) : store.elapsed history = 0 := by
  have nothing (done : Pace α × Op α) : store.addition? done.1 done.2 = none :=
    addition?_of_not_pos empty done.1 done.2
  simp [elapsed, nothing]

section

variable [MonotoneScalar α] {store : Store α} {pace : Pace α} {time : α} {op : Op α}

/-- What a clock that goes at a finite and positive speed adds is not negative. -/
theorem Store.addition?_nonneg (finite : Scalar.isFinite pace.speed) (positive : 0 < pace.speed)
    {amount : α} (adds : store.addition? pace op = some amount) : 0 ≤ amount := by
  cases op with
  | tick delta =>
      obtain ⟨⟨-, -, finiteDelta, notNegative⟩, isAmount⟩ :=
        Option.ite_none_right_eq_some.mp adds
      obtain rfl := Option.some.inj isAmount
      have nonneg : 0 ≤ delta := Scalar.le_of_not_lt Scalar.isNumber_zero
        (OrderedScalar.isNumber_of_isFinite finiteDelta) notNegative
      exact MonotoneScalar.mul_nonneg finiteDelta finite nonneg (Scalar.le_of_lt positive)
  | play | pause | toggle | restart | setSpeed | frame => cases adds

/-- Time does not go back but by a restart. -/
theorem Store.le_timeAfter (finite : Scalar.isFinite pace.speed) (positive : 0 < pace.speed)
    (nonneg : 0 ≤ time) (unbroken : ¬ op.isRestart) : time ≤ store.timeAfter pace time op := by
  rw [timeAfter, if_neg unbroken]
  cases adds : store.addition? pace op with
  | none => exact (OrderedScalar.isNumber_of_le nonneg).2
  | some amount => exact MonotoneScalar.le_add nonneg (addition?_nonneg finite positive adds)

theorem Store.timeAfter_nonneg (finite : Scalar.isFinite pace.speed) (positive : 0 < pace.speed)
    (nonneg : 0 ≤ time) : 0 ≤ store.timeAfter pace time op := by
  by_cases restarts : op.isRestart
  · rw [timeAfter, if_pos restarts]
    exact Scalar.isNumber_zero
  · exact OrderedScalar.le_trans nonneg (le_timeAfter finite positive nonneg restarts)

end

/-! ## Operations -/

namespace Session

variable {store : Store α} {config : Config α} {session : Session α}

/-- What advancing a session makes of its time is what a tick makes of the time. -/
theorem time_advance (session : Session α) (delta : α) :
    (session.advance delta).clock.time =
      session.store.timeAfter (paceOf session.clock) session.clock.time (.tick delta) := by
  have isDelta : Clock.isDelta delta ↔ Scalar.isFinite delta ∧ ¬ delta < 0 := by
    simp [Clock.isDelta]
  simp only [advance, Clock.advance, Store.timeAfter, Store.addition?, Op.isRestart, paceOf,
    Bool.and_eq_true, isDelta]
  by_cases positive : 0 < session.store.maxEndTime
  · by_cases counts : session.clock.isPlaying ∧ Scalar.isFinite delta ∧ ¬ delta < 0
    · simp [positive, counts]
    · simp [positive, counts]
  · simp [positive]

theorem paceOf_advance (session : Session α) (delta : α) :
    paceOf (session.advance delta).clock = paceOf session.clock := by
  unfold advance
  split
  · rw [paceOf, Clock.speed_advance, Clock.isPlaying_advance]
    rfl
  · rfl

section

variable [OrderedScalar α]

/-- A session starts at the time zero and at the initial pace. -/
theorem start_clock (usable : config.playback.IsUsable) {first : Session α}
    (started : start store config = .ok first) :
    paceOf first.clock = Pace.first config.playback ∧ first.clock.time = 0 := by
  have allowed : config.playback.Allows config.playback.initialSpeed :=
    ⟨usable.minSpeed_le_initialSpeed, usable.initialSpeed_le_maxSpeed⟩
  have clamped := PlaybackSettings.clampSpeed_eq config.playback.initialSpeed
    usable.minSpeed_le_maxSpeed
  rw [Scalar.clamp_of_le_of_le allowed.minSpeed_le allowed.le_maxSpeed] at clamped
  rw [start, clamped] at started
  cases started
  have clock : Clock.start config.playback.initialSpeed config.playback.startsPlaying =
      ⟨0, config.playback.initialSpeed, config.playback.startsPlaying⟩ :=
    Clock.setSpeed_of_isSpeed (usable.isSpeed_of_allows allowed)
  exact ⟨congrArg paceOf clock, congrArg Clock.time clock⟩

variable [Planar α]

/-- What one operation makes of the pace and of the time. -/
theorem step_clock (usable : config.playback.IsUsable) (sound : session.IsSound store config)
    (op : Op α) :
    ∃ next shown, session.step op = .ok (next, shown) ∧ next.IsSound store config ∧
      paceOf next.clock = (paceOf session.clock).after config.playback op ∧
      next.clock.time = store.timeAfter (paceOf session.clock) session.clock.time op := by
  obtain ⟨next, shown, stepped, soundNext⟩ := step_isSound usable sound op
  refine ⟨next, shown, stepped, soundNext, ?_⟩
  cases op with
  | play | pause | toggle | restart | frame =>
      cases stepped
      exact ⟨rfl, rfl⟩
  | setSpeed speed =>
      by_cases number : IsNumber speed
      · rw [step, setSpeed_of_isNumber usable sound number] at stepped
        cases stepped
        exact ⟨(if_pos number).symm, rfl⟩
      · rw [step, setSpeed_of_not_isNumber usable sound number] at stepped
        cases stepped
        exact ⟨(if_neg number).symm, rfl⟩
  | tick delta =>
      cases stepped
      have time := time_advance session delta
      rw [sound.store_eq] at time
      exact ⟨paceOf_advance session delta, time⟩

/-- What a sequence of operations makes of the pace and of the time. -/
theorem run_clock (usable : config.playback.IsUsable) {first : Session α}
    (started : start store config = .ok first) (ops : List (Op α)) :
    ∃ last frames, first.run ops = .ok (last, frames) ∧ last.IsSound store config ∧
      paceOf last.clock = ops.foldl (Pace.after config.playback) (Pace.first config.playback) ∧
      last.clock.time =
        store.elapsed (history config.playback (Pace.first config.playback) ops) := by
  induction ops using List.reverseRecOn with
  | nil =>
      obtain ⟨same, startedAgain, sound⟩ := start_isSound usable store
      obtain rfl := Except.ok.inj (started.symm.trans startedAgain)
      obtain ⟨pace, time⟩ := start_clock usable started
      exact ⟨first, [], rfl, sound, pace, time⟩
  | append_singleton ops op ih =>
      obtain ⟨middle, earlier, ran, sound, pace, time⟩ := ih
      obtain ⟨last, shown, stepped, soundLast, paceLast, timeLast⟩ := step_clock usable sound op
      have stops : last.run [] = .ok (last, []) := rfl
      refine ⟨last, _, run_append ran (run_cons_of_ok stepped stops), soundLast, ?_, ?_⟩
      · rw [paceLast, pace, List.foldl_append]
        rfl
      · rw [timeLast, time, pace, history_concat, Store.elapsed_concat]

end

variable [MonotoneScalar α] [Planar α]

/-- The time of a clock that goes at an allowed speed stays a number that is not negative. -/
theorem run_time_nonneg (usable : config.playback.IsUsable) (sound : session.IsSound store config)
    (nonneg : 0 ≤ session.clock.time) (ops : List (Op α)) :
    ∃ last frames, session.run ops = .ok (last, frames) ∧ last.IsSound store config ∧
      0 ≤ last.clock.time := by
  have kept : ∀ session : Session α, session.IsSound store config ∧ 0 ≤ session.clock.time →
      ∀ op, ∃ next shown, session.step op = .ok (next, shown) ∧
        next.IsSound store config ∧ 0 ≤ next.clock.time := by
    rintro session ⟨sound, nonneg⟩ op
    obtain ⟨next, shown, stepped, soundNext, -, time⟩ := step_clock usable sound op
    refine ⟨next, shown, stepped, soundNext, ?_⟩
    rw [time]
    exact Store.timeAfter_nonneg (usable.isFinite_of_allows sound.allows_speed)
      (usable.pos_of_allows sound.allows_speed) nonneg
  exact run_of_step kept ⟨sound, nonneg⟩ ops

/-- The same for a session from its start on. -/
theorem exists_run_time_nonneg (usable : config.playback.IsUsable) (store : Store α)
    (ops : List (Op α)) :
    ∃ first last frames, start store config = .ok first ∧ first.run ops = .ok (last, frames) ∧
      last.IsSound store config ∧ 0 ≤ last.clock.time := by
  obtain ⟨first, started, sound⟩ := start_isSound usable store
  have nonneg : 0 ≤ first.clock.time := by
    rw [(start_clock usable started).2]
    exact Scalar.isNumber_zero
  obtain ⟨last, frames, ran, soundLast, nonnegLast⟩ := run_time_nonneg usable sound nonneg ops
  exact ⟨first, last, frames, started, ran, soundLast, nonnegLast⟩

/-- **The time of a session.**  With settings that pass their check every run from the start
succeeds, and its time is the sum, from left to right, of what the ticks since the last restart are
worth: each tick its real time at the speed of the clock by then, if the clock runs by then, the
real time is finite and not negative, and the store has something to replay.  Nothing but a tick or
a restart changes the time.  So the time is never undefined and never negative, and it stays zero
where there is nothing to replay. -/
theorem run_time_eq_elapsed (store : Store α) (config : Config α)
    (valid : config.playback.check = .ok ()) (ops : List (Op α)) :
    ∃ first last frames, start store config = .ok first ∧ first.run ops = .ok (last, frames) ∧
      last.clock.time =
        store.elapsed (history config.playback (Pace.first config.playback) ops) ∧
      paceOf last.clock = ops.foldl (Pace.after config.playback) (Pace.first config.playback) ∧
      (∀ op, op ≠ .restart → (∀ delta, op ≠ .tick delta) →
        ∃ next shown, last.step op = .ok (next, shown) ∧ next.clock.time = last.clock.time) ∧
      (IsNumber last.clock.time ∧ 0 ≤ last.clock.time) ∧
      (¬ 0 < store.maxEndTime → last.clock.time = 0) := by
  have usable := (PlaybackSettings.check_eq_ok_iff config.playback).mp valid
  obtain ⟨first, last, frames, started, ran, sound, nonneg⟩ :=
    exists_run_time_nonneg usable store ops
  obtain ⟨sameLast, sameFrames, ranAgain, -, pace, time⟩ := run_clock usable started ops
  obtain ⟨rfl, -⟩ := Prod.mk.inj (Except.ok.inj (ran.symm.trans ranAgain))
  refine ⟨first, last, frames, started, ran, time, pace, ?_,
    ⟨(OrderedScalar.isNumber_of_le nonneg).2, nonneg⟩, fun empty => ?_⟩
  · intro op unbroken untimed
    obtain ⟨next, shown, stepped, -, -, timeNext⟩ := step_clock usable sound op
    refine ⟨next, shown, stepped, timeNext.trans ?_⟩
    cases op with
    | restart => exact absurd rfl unbroken
    | tick delta => exact absurd rfl (untimed delta)
    | play | pause | toggle | setSpeed | frame => rfl
  · rw [time, Store.elapsed_of_not_pos empty]

/-- Ticks before a restart, of every kind, and at two speeds. -/
theorem run_time_eq_elapsed_two_speeds :
    let store : Store Float := ⟨[], [], [⟨"vehicle", [⟨9.0, 0.0, 0.0, 1.0⟩]⟩], [], [], none⟩
    let config : Config Float := .standard
    let ops : List (Op Float) := [.tick 3.0, .restart, .tick 0.5, .setSpeed Machine.undefined,
      .setSpeed 4.0, .tick (-1.0), .tick Machine.infinity, .tick Machine.undefined, .pause,
      .tick 2.0, .toggle, .tick 0.25, .frame]
    config.playback.check = .ok () ∧
      ∃ first last frames, start store config = .ok first ∧
        first.run ops = .ok (last, frames) ∧ last.clock.time = 3.5 := by
  intro store config ops
  have valid : config.playback.check = .ok () := by decide
  have sum : store.elapsed (history config.playback (Pace.first config.playback) ops) = 3.5 := by
    decide +kernel
  obtain ⟨first, last, frames, started, ran, time, -⟩ :=
    run_time_eq_elapsed store config valid ops
  exact ⟨valid, first, last, frames, started, ran, time.trans sum⟩

end Session

end JunctionReplay
