import JunctionReplay.Proofs.Session.Replay
import JunctionReplay.Proofs.Session.Speed

/-!
# Restarts

A restart leaves nothing of what a session has been through but the pace of its clock: its speed,
and whether it runs.  The time is zero again and every heading that was remembered is forgotten, so
from then on the session goes through the same as one that has just been started and set to that
pace.

## Main Definitions

* `Session.atPaceOf` — a session with its clock at the pace of another one.

## Main Statements

* `Session.restart_eq_atPaceOf` — what is left of a session after a restart.
* `Session.run_atPace` — a session that has just been started can be set to every allowed pace.
* `Session.restart_runs_like_new` — no operation tells a restarted session from a new one.
-/

namespace JunctionReplay.Session

variable {α : Type} [Scalar α] {store : Store α} {config : Config α} {first middle : Session α}

/-- The session with its clock at the pace of another one: at its speed, running if it runs. -/
def atPaceOf (session : Session α) (clock : Clock α) : Session α :=
  { session with
    clock := { session.clock with speed := clock.speed, isPlaying := clock.isPlaying } }

/-- What is left of a session after a restart is the pace of its clock. -/
theorem restart_eq_atPaceOf (started : start store config = .ok first)
    (replays : middle.Replays store config) : middle.restart = first.atPaceOf middle.clock := by
  obtain ⟨replaysFirst, atZero, -, atRest⟩ := start_replays started
  have sameStore := replays.store_eq.trans replaysFirst.store_eq.symm
  have sameDirections := replays.directions_eq.trans replaysFirst.directions_eq.symm
  have sameSettings := replays.settings_eq.trans replaysFirst.settings_eq.symm
  rw [← replaysFirst.store_eq] at atRest
  simp only [restart, atPaceOf, Clock.restart, sameStore, sameDirections, sameSettings, atZero,
    atRest]

variable [Planar α]

section

variable [OrderedScalar α] {clock : Clock α}

/-- A session can be set to every pace at an allowed speed. -/
theorem run_atPace (usable : config.playback.IsUsable) (sound : first.IsSound store config)
    (allowed : config.playback.Allows clock.speed) :
    first.run [.setSpeed clock.speed, if clock.isPlaying then .play else .pause] =
      .ok (first.atPaceOf clock, []) := by
  have number := (OrderedScalar.isNumber_of_le allowed.minSpeed_le).2
  have kept := Scalar.clamp_of_le_of_le allowed.minSpeed_le allowed.le_maxSpeed
  have set := setSpeed_of_isNumber usable sound number
  rw [kept] at set
  let atSpeed : Session α := { first with clock := { first.clock with speed := clock.speed } }
  have setsSpeed : first.step (.setSpeed clock.speed) = .ok (atSpeed, none) := by
    rw [step, set, Except.map]
  have setsPlaying : atSpeed.step (if clock.isPlaying then .play else .pause) =
      .ok (first.atPaceOf clock, none) := by
    cases runs : clock.isPlaying <;>
      simp [step, setPlaying, Clock.setPlaying, atPaceOf, atSpeed, runs]
  have stops : (first.atPaceOf clock).run [] = .ok (first.atPaceOf clock, []) := rfl
  exact run_cons_of_ok setsSpeed (run_cons_of_ok setsPlaying stops)

end

/-- **A restarted session is like a new one.**  Whatever has been done with a session, after a
restart every sequence of operations leaves the same session and shows the same frames as on a
session that has just been started and has its clock at the same pace; neither fails.  With
settings that pass their check, that one is what setting the speed and the pause of a new session
comes to. -/
theorem restart_runs_like_new [OrderedScalar α] (store : Store α) (config : Config α)
    (started : start store config = .ok first) (before : List (Op α)) :
    ∃ middle earlier, first.run before = .ok (middle, earlier) ∧
      (∀ since, ∃ last frames, middle.restart.run since = .ok (last, frames) ∧
        (first.atPaceOf middle.clock).run since = .ok (last, frames)) ∧
      (config.playback.check = .ok () →
        first.run
            [.setSpeed middle.clock.speed, if middle.clock.isPlaying then .play else .pause] =
          .ok (first.atPaceOf middle.clock, [])) := by
  obtain ⟨replaysFirst, -⟩ := start_replays started
  obtain ⟨middle, earlier, ran, replays, -⟩ := run_replays replaysFirst before
  have alike := restart_eq_atPaceOf started replays
  refine ⟨middle, earlier, ran, fun since => ?_, fun valid => ?_⟩
  · have replaysAgain : middle.restart.Replays store config := { replays with }
    obtain ⟨last, frames, ranAgain, -⟩ := run_replays replaysAgain since
    exact ⟨last, frames, ranAgain, alike ▸ ranAgain⟩
  · have usable := (PlaybackSettings.check_eq_ok_iff config.playback).mp valid
    obtain ⟨sameFirst, startedAgain, sound⟩ := start_isSound usable store
    obtain rfl := Except.ok.inj (started.symm.trans startedAgain)
    obtain ⟨sameMiddle, sameEarlier, ranAgain, soundMiddle⟩ := run_isSound usable sound before
    obtain ⟨rfl, -⟩ := Prod.mk.inj (Except.ok.inj (ran.symm.trans ranAgain))
    exact run_atPace usable sound soundMiddle.allows_speed

/-- A vehicle that stands before it moves, left paused and at another speed while it moves. -/
theorem restart_runs_like_new_standing :
    let store : Store Float :=
      ⟨[], [], [⟨"vehicle", [⟨0.0, 0.0, 1.0, 0.0⟩, ⟨1.0, 0.0, 1.0, 0.0⟩, ⟨2.0, 0.0, 9.0, 0.0⟩]⟩],
        [], [], none⟩
    let config : Config Float := .standard
    let before : List (Op Float) := [.tick 0.3, .restart, .setSpeed 2.0, .tick 0.9, .pause]
    config.playback.check = .ok () ∧
      ∃ first, start store config = .ok first ∧
        ∃ middle earlier, first.run before = .ok (middle, earlier) ∧
          (∀ since, ∃ last frames, middle.restart.run since = .ok (last, frames) ∧
            (first.atPaceOf middle.clock).run since = .ok (last, frames)) ∧
          first.run
              [.setSpeed middle.clock.speed, if middle.clock.isPlaying then .play else .pause] =
            .ok (first.atPaceOf middle.clock, []) := by
  intro store config before
  have valid : config.playback.check = .ok () := by decide
  have usable := (PlaybackSettings.check_eq_ok_iff config.playback).mp valid
  obtain ⟨first, started, -⟩ := start_isSound usable store
  obtain ⟨middle, earlier, ran, alike, reached⟩ :=
    restart_runs_like_new store config started before
  exact ⟨valid, first, started, middle, earlier, ran, alike, reached valid⟩

end JunctionReplay.Session
