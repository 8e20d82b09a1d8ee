import JunctionReplay.Comparison
import JunctionReplay.Proofs.Session.Speed

/-!
# Sessions from their start

All sessions of a comparison get their clocks from the same settings, and every change of speed
reaches all of them alike.  As long as nothing else is done with them, their clocks are the same.

## Main Definitions

* `Comparison.Begins` — what holds of sessions that are still at the start.

## Main Statements

* `Comparison.exists_start`, `Comparison.Begins.exists_setSpeed` — starting and setting a speed
  succeed, whatever the speed is.
-/

namespace JunctionReplay

variable {α : Type} [Scalar α] [OrderedScalar α] {config : Config α}

/-! ## One session -/

/-- A session stands at the start of a store with a clock that has not moved. -/
structure Session.Begins (session : Session α) (store : Store α) (config : Config α)
    (clock : Clock α) : Prop where
  isSound : session.IsSound store config
  clock_eq : session.clock = clock

/-- The clock that every session starts with. -/
def PlaybackSettings.firstClock (settings : PlaybackSettings α) : Clock α :=
  Clock.start (Scalar.clamp settings.minSpeed settings.maxSpeed settings.initialSpeed)
    settings.startsPlaying

/-- The clock of a session after its speed is set. -/
def PlaybackSettings.changedClock (settings : PlaybackSettings α) (clock : Clock α) (speed : α) :
    Clock α :=
  clock.setSpeed (Scalar.clamp settings.minSpeed settings.maxSpeed speed)

section

variable (usable : config.playback.IsUsable)

include usable

theorem Session.exists_start (store : Store α) :
    ∃ session, start store config = .ok session ∧
      session.Begins store config config.playback.firstClock := by
  obtain ⟨session, started, sound⟩ := start_isSound usable store
  have clamped := PlaybackSettings.clampSpeed_eq config.playback.initialSpeed
    usable.minSpeed_le_maxSpeed
  refine ⟨session, started, sound, ?_⟩
  rw [start, clamped] at started
  cases started
  rfl

theorem Session.Begins.exists_setSpeed {session : Session α} {store : Store α} {clock : Clock α}
    (begins : session.Begins store config clock) (speed : α) :
    ∃ next, session.setSpeed speed = .ok next ∧
      next.Begins store config (config.playback.changedClock clock speed) := by
  obtain ⟨next, set, sound⟩ := setSpeed_isSound usable begins.isSound speed
  refine ⟨next, set, sound, ?_⟩
  rw [setSpeed, clampSpeed_settings usable begins.isSound] at set
  cases set
  rw [← begins.clock_eq]
  rfl

end

/-! ## One or two sessions -/

/-- All sessions stand at the start of their stores with one and the same clock. -/
structure Comparison.Begins (view : Comparison α) (baseline : Store α)
    (optimized : Option (Store α)) (config : Config α) (clock : Clock α) : Prop where
  time_eq : clock.time = 0
  isPlaying_eq : clock.isPlaying = config.playback.startsPlaying
  baseline : view.baseline.Begins baseline config clock
  optimized :
    Option.Rel (fun session store => session.Begins store config clock) view.optimized optimized

variable {baseline : Store α} {optimized : Option (Store α)}

theorem Comparison.exists_start (usable : config.playback.IsUsable) (baseline : Store α)
    (optimized : Option (Store α)) :
    ∃ view, start baseline optimized config = .ok view ∧
      view.Begins baseline optimized config config.playback.firstClock := by
  have time : config.playback.firstClock.time = 0 := Clock.time_setSpeed _ _
  have isPlaying : config.playback.firstClock.isPlaying = config.playback.startsPlaying :=
    Clock.isPlaying_setSpeed _ _
  obtain ⟨first, startedFirst, beginsFirst⟩ := Session.exists_start usable baseline
  unfold start
  rw [startedFirst]
  cases optimized with
  | none => exact ⟨⟨first, none⟩, rfl, time, isPlaying, beginsFirst, .none⟩
  | some store =>
      obtain ⟨second, startedSecond, beginsSecond⟩ := Session.exists_start usable store
      refine ⟨⟨first, some second⟩, ?_, time, isPlaying, beginsFirst, .some beginsSecond⟩
      dsimp only [ifPresent]
      rw [startedSecond]
      rfl

theorem Comparison.Begins.exists_setSpeed (usable : config.playback.IsUsable)
    {view : Comparison α} {clock : Clock α}
    (begins : view.Begins baseline optimized config clock) (speed : α) :
    ∃ next, view.setSpeed speed = .ok next ∧
      next.Begins baseline optimized config (config.playback.changedClock clock speed) := by
  obtain ⟨first, second⟩ := view
  obtain ⟨time, isPlaying, beginsFirst, beginsSecond⟩ := begins
  have timeNext : (config.playback.changedClock clock speed).time = 0 :=
    (Clock.time_setSpeed _ _).trans time
  have isPlayingNext : (config.playback.changedClock clock speed).isPlaying =
      config.playback.startsPlaying := (Clock.isPlaying_setSpeed _ _).trans isPlaying
  obtain ⟨nextFirst, setFirst, nextBeginsFirst⟩ := beginsFirst.exists_setSpeed usable speed
  unfold setSpeed
  rw [setFirst]
  cases beginsSecond with
  | none =>
      exact ⟨⟨nextFirst, none⟩, rfl, timeNext, isPlayingNext, nextBeginsFirst, .none⟩
  | @some session store beginsSecond =>
      obtain ⟨nextSecond, setSecond, nextBeginsSecond⟩ := beginsSecond.exists_setSpeed usable speed
      refine ⟨⟨nextFirst, some nextSecond⟩, ?_, timeNext, isPlayingNext, nextBeginsFirst,
        .some nextBeginsSecond⟩
      dsimp only [ifPresent]
      rw [setSecond]
      rfl

end JunctionReplay
