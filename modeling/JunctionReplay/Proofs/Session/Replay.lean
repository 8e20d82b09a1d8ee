import JunctionReplay.Proofs.Session.Runs

/-!
# What a session replays

The store of a session, the sides that were set and its settings stay what they were at the start,
whatever is done with it.  A start already takes a range of speeds to choose from, and that is all
an operation can ask for: so once there is a session, no operation on it fails.

## Main Statements

* `Session.Replays` — what stays the same.
* `Session.start_replays` — a session that was started has it.
* `Session.step_replays` — no operation fails or changes it, and a frame shows the signals of the
  store.
* `Session.run_replays` — the same for sequences of operations.
-/

namespace JunctionReplay.Session

variable {α : Type} [Scalar α] {store : Store α} {config : Config α} {session first : Session α}

/-- A session replays a store with settings that leave a speed to choose. -/
structure Replays (store : Store α) (config : Config α) (session : Session α) : Prop where
  store_eq : session.store = store
  directions_eq : session.directions = config.directions
  settings_eq : session.settings = config.playback
  speeds_ordered : config.playback.minSpeed ≤ config.playback.maxSpeed

namespace Replays

theorem withClock (replays : session.Replays store config) (clock : Clock α) :
    Replays store config { session with clock := clock } :=
  { replays with }

theorem withHeadings (replays : session.Replays store config) (headings : List α) :
    Replays store config { session with headings := headings } :=
  { replays with }

theorem advance (replays : session.Replays store config) (delta : α) :
    (session.advance delta).Replays store config := by
  unfold Session.advance
  split
  · exact replays.withClock _
  · exact replays

/-- There is a speed to choose, so that nothing but the clock changes. -/
theorem exists_setSpeed_eq (replays : session.Replays store config) (speed : α) :
    ∃ clock, session.setSpeed speed = .ok { session with clock := clock } := by
  have ordered := replays.speeds_ordered
  rw [← replays.settings_eq] at ordered
  exact ⟨_, congrArg (Except.map _) (if_pos ordered)⟩

end Replays

/-- A session that was started replays its store, from the time zero on and with all headings
along the `x` axis. -/
theorem start_replays (started : start store config = .ok first) :
    first.Replays store config ∧ first.clock.time = 0 ∧
      first.clock.isPlaying = config.playback.startsPlaying ∧
      first.headings = restHeadings store := by
  unfold start PlaybackSettings.clampSpeed at started
  split at started
  next ordered =>
    cases started
    exact ⟨⟨rfl, rfl, rfl, ordered⟩, Clock.time_setSpeed _ _, Clock.isPlaying_setSpeed _ _, rfl⟩
  next => cases started

variable [Planar α]

theorem signals_frame (replays : session.Replays store config) :
    session.frame.signals = store.signalsAt config.directions session.frame.time := by
  rw [frame, replays.store_eq, replays.directions_eq]

/-- No operation fails or changes what is replayed, and a frame shows the signals of the store. -/
theorem step_replays (replays : session.Replays store config) (op : Op α) :
    ∃ next shown, session.step op = .ok (next, shown) ∧ next.Replays store config ∧
      ∀ frame ∈ shown, frame.signals = store.signalsAt config.directions frame.time := by
  cases op with
  | play | pause | toggle => exact ⟨_, _, rfl, replays.withClock _, nofun⟩
  | restart => exact ⟨_, _, rfl, { replays with }, nofun⟩
  | setSpeed speed =>
      obtain ⟨clock, set⟩ := replays.exists_setSpeed_eq speed
      exact ⟨_, none, step_setSpeed_eq_ok_iff.mpr ⟨set, rfl⟩, replays.withClock clock, nofun⟩
  | tick delta =>
      have advanced := replays.advance delta
      refine ⟨_, _, rfl, advanced.withHeadings _, ?_⟩
      rintro frame ⟨⟩
      exact signals_frame advanced
  | frame =>
      refine ⟨_, _, rfl, replays.withHeadings _, ?_⟩
      rintro frame ⟨⟩
      exact signals_frame replays

/-- No sequence of operations fails or changes what is replayed, and its frames show the signals
of the store. -/
theorem run_replays (replays : session.Replays store config) (ops : List (Op α)) :
    ∃ last frames, session.run ops = .ok (last, frames) ∧ last.Replays store config ∧
      ∀ frame ∈ frames, frame.signals = store.signalsAt config.directions frame.time :=
  run_shows_of_step (fun _ => step_replays) replays ops

theorem Replays.of_run {ops : List (Op α)} {last : Session α} {frames : List (Frame α)}
    (replays : session.Replays store config) (ran : session.run ops = .ok (last, frames)) :
    last.Replays store config := by
  obtain ⟨_, _, ranAgain, replaysLast, -⟩ := run_replays replays ops
  rw [ran] at ranAgain
  cases ranAgain
  exact replaysLast

end JunctionReplay.Session
