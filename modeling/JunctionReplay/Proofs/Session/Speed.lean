import JunctionReplay.Proofs.Session.Runs
import JunctionReplay.Proofs.Settings.Playback
import JunctionReplay.Scalar.Machine

/-!
# The speed of a session

With usable settings nothing that is done with a session fails, and its clock always runs at an
allowed speed.  Three guards make it so, and each of them alone would not do: the check of the
settings leaves a range to clamp a speed to, clamping moves every number into the range but leaves
an undefined one as it is, and the clock refuses what is not a positive finite number.

## Main Statements

* `Session.IsSound` — what holds of a session at all times.
* `Session.step_isSound` — every operation succeeds and keeps it up.
* `Session.run_isSound` — so does every sequence of operations.
* `Session.run_keeps_speed_in_range` — what this means for a session from its start on.
-/

namespace JunctionReplay

open Scalar (IsNumber)

variable {α : Type} [Scalar α]

/-! ## Clocks -/

theorem Clock.setSpeed_of_isSpeed {clock : Clock α} {speed : α} (usable : Clock.isSpeed speed) :
    clock.setSpeed speed = { clock with speed := speed } :=
  if_pos usable

theorem Clock.setSpeed_of_not_isSpeed {clock : Clock α} {speed : α}
    (useless : ¬ Clock.isSpeed speed) : clock.setSpeed speed = clock :=
  if_neg useless

section

variable [OrderedScalar α] {speed : α}

theorem Clock.isSpeed_iff : Clock.isSpeed speed ↔ Scalar.isFinite speed ∧ 0 < speed := by
  unfold isSpeed
  rw [Bool.and_eq_true, Bool.not_eq_true', decide_eq_false_iff_not]
  refine and_congr_right fun finite => ⟨?_, Scalar.not_le_of_lt⟩
  exact Scalar.lt_of_not_le Scalar.isNumber_zero (OrderedScalar.isNumber_of_isFinite finite)

/-- A clock does not run at an undefined speed. -/
theorem Clock.not_isSpeed_of_not_isNumber (undefined : ¬ IsNumber speed) :
    ¬ Clock.isSpeed speed := by
  intro usable
  exact undefined (OrderedScalar.isNumber_of_isFinite (Clock.isSpeed_iff.mp usable).1)

/-- A clock can run at every allowed speed. -/
theorem PlaybackSettings.IsUsable.isSpeed_of_allows {settings : PlaybackSettings α}
    (usable : settings.IsUsable) (allowed : settings.Allows speed) : Clock.isSpeed speed :=
  Clock.isSpeed_iff.mpr ⟨usable.isFinite_of_allows allowed, usable.pos_of_allows allowed⟩

end

namespace Session

variable {store : Store α} {config : Config α} {session : Session α} {speed : α}

/-! ## What holds at all times -/

/-- What holds at all times of a session that replays a store. -/
structure IsSound (store : Store α) (config : Config α) (session : Session α) : Prop where
  /-- The session still replays the store. -/
  store_eq : session.store = store
  /-- The session still shows the sides that were set. -/
  directions_eq : session.directions = config.directions
  /-- The session still has the settings that were checked. -/
  settings_eq : session.settings = config.playback
  /-- There is a heading for each vehicle. -/
  length_headings : session.headings.length = store.vehicles.length
  /-- The clock runs at an allowed speed. -/
  allows_speed : config.playback.Allows session.clock.speed

namespace IsSound

/-- A clock of the same speed does as well. -/
theorem withClock (sound : session.IsSound store config) {clock : Clock α}
    (same : clock.speed = session.clock.speed) :
    IsSound store config { session with clock := clock } := by
  have allowed := sound.allows_speed
  rw [← same] at allowed
  exact { sound with allows_speed := allowed }

theorem restart (sound : session.IsSound store config) : session.restart.IsSound store config := by
  have length : session.restart.headings.length = store.vehicles.length := by
    rw [Session.restart, restHeadings, List.length_map, sound.store_eq]
  exact { sound with length_headings := length }

theorem advance (sound : session.IsSound store config) (delta : α) :
    (session.advance delta).IsSound store config := by
  unfold Session.advance
  split
  · exact sound.withClock (Clock.speed_advance _ _)
  · exact sound

theorem afterFrame [Planar α] (sound : session.IsSound store config) :
    session.afterFrame.IsSound store config := by
  have length : session.afterFrame.headings.length = store.vehicles.length := by
    rw [Session.afterFrame, List.length_zipWith, sound.store_eq, sound.length_headings,
      Nat.min_self]
  exact { sound with length_headings := length }

end IsSound

variable [OrderedScalar α]

section

variable (usable : config.playback.IsUsable)

include usable

/-! ## Changes of speed -/

theorem clampSpeed_settings (sound : session.IsSound store config) (speed : α) :
    session.settings.clampSpeed speed =
      .ok (Scalar.clamp config.playback.minSpeed config.playback.maxSpeed speed) := by
  rw [sound.settings_eq]
  exact PlaybackSettings.clampSpeed_eq speed usable.minSpeed_le_maxSpeed

/-- A number sets the allowed speed that is nearest to it. -/
theorem setSpeed_of_isNumber (sound : session.IsSound store config) (number : IsNumber speed) :
    session.setSpeed speed = .ok { session with
      clock := { session.clock with
        speed := Scalar.clamp config.playback.minSpeed config.playback.maxSpeed speed } } := by
  have allowed := usable.allows_clamp number
  rw [Session.setSpeed, clampSpeed_settings usable sound, Except.map,
    Clock.setSpeed_of_isSpeed (usable.isSpeed_of_allows allowed)]

/-- An undefined number sets no speed. -/
theorem setSpeed_of_not_isNumber (sound : session.IsSound store config)
    (undefined : ¬ IsNumber speed) : session.setSpeed speed = .ok session := by
  have useless := Clock.not_isSpeed_of_not_isNumber undefined
  rw [Session.setSpeed, clampSpeed_settings usable sound, Scalar.clamp_of_not_isNumber undefined,
    Except.map, Clock.setSpeed_of_not_isSpeed useless]

theorem setSpeed_isSound (sound : session.IsSound store config) (speed : α) :
    ∃ next, session.setSpeed speed = .ok next ∧ next.IsSound store config := by
  by_cases number : IsNumber speed
  · refine ⟨_, setSpeed_of_isNumber usable sound number, ?_⟩
    exact { sound with allows_speed := usable.allows_clamp number }
  · exact ⟨session, setSpeed_of_not_isNumber usable sound number, sound⟩

/-! ## Runs -/

theorem start_isSound (store : Store α) :
    ∃ first, start store config = .ok first ∧ first.IsSound store config := by
  have number := OrderedScalar.isNumber_of_isFinite usable.isFinite_initialSpeed
  have allowed := usable.allows_clamp number
  have clamped := PlaybackSettings.clampSpeed_eq config.playback.initialSpeed
    usable.minSpeed_le_maxSpeed
  refine ⟨_, congrArg (Except.map _) clamped, rfl, rfl, rfl, List.length_map _, ?_⟩
  change config.playback.Allows (Clock.setSpeed _ _).speed
  rw [Clock.setSpeed_of_isSpeed (usable.isSpeed_of_allows allowed)]
  exact allowed

variable [Planar α]

/-- Every operation succeeds, whatever it is given. -/
theorem step_isSound (sound : session.IsSound store config) (op : Op α) :
    ∃ next shown, session.step op = .ok (next, shown) ∧ next.IsSound store config := by
  cases op with
  | play => exact ⟨_, _, rfl, sound.withClock rfl⟩
  | pause => exact ⟨_, _, rfl, sound.withClock rfl⟩
  | toggle => exact ⟨_, _, rfl, sound.withClock rfl⟩
  | restart => exact ⟨_, _, rfl, sound.restart⟩
  | setSpeed speed =>
      obtain ⟨next, set, soundNext⟩ := setSpeed_isSound usable sound speed
      refine ⟨next, none, ?_, soundNext⟩
      rw [step, set, Except.map]
  | tick delta => exact ⟨_, _, rfl, (sound.advance delta).afterFrame⟩
  | frame => exact ⟨_, _, rfl, sound.afterFrame⟩

theorem run_isSound (sound : session.IsSound store config) (ops : List (Op α)) :
    ∃ last frames, session.run ops = .ok (last, frames) ∧ last.IsSound store config :=
  run_of_step (fun _ => step_isSound usable) sound ops

end

/-- **The speed of a session.**  With settings that pass their check a session starts, and no
sequence of operations on it fails, whatever it is given.  The clock runs at a finite and positive
speed of the allowed range, which an undefined number does not change, and the session has a heading
for each vehicle of its store, so that no vehicle is left out of its frames. -/
theorem run_keeps_speed_in_range [Planar α] (store : Store α) (config : Config α)
    (valid : config.playback.check = .ok ()) (ops : List (Op α)) :
    ∃ first last frames, start store config = .ok first ∧ first.run ops = .ok (last, frames) ∧
      last.settings.minSpeed ≤ last.settings.maxSpeed ∧
      (config.playback.minSpeed ≤ last.clock.speed ∧
        last.clock.speed ≤ config.playback.maxSpeed) ∧
      (Scalar.isFinite last.clock.speed ∧ 0 < last.clock.speed) ∧
      (∀ undefined, ¬ IsNumber undefined → last.step (.setSpeed undefined) = .ok (last, none)) ∧
      last.headings.length = store.vehicles.length ∧
      (last.store.vehicles.zip last.headings).map Prod.fst = store.vehicles := by
  have usable := (PlaybackSettings.check_eq_ok_iff config.playback).mp valid
  obtain ⟨first, started, soundFirst⟩ := start_isSound usable store
  obtain ⟨last, frames, ran, sound⟩ := run_isSound usable soundFirst ops
  have allowed := sound.allows_speed
  refine ⟨first, last, frames, started, ran, ?_, ⟨allowed.minSpeed_le, allowed.le_maxSpeed⟩,
    ⟨usable.isFinite_of_allows allowed, usable.pos_of_allows allowed⟩, ?_, sound.length_headings, ?_⟩
  · rw [sound.settings_eq]
    exact usable.minSpeed_le_maxSpeed
  · intro undefined notNumber
    rw [step, setSpeed_of_not_isNumber usable sound notNumber, Except.map]
  · have same : last.store.vehicles.length = last.headings.length := by
      rw [sound.length_headings, sound.store_eq]
    rw [List.map_fst_zip (Nat.le_of_eq same), sound.store_eq]

/-- The standard settings, with speeds and deltas of every kind. -/
theorem run_keeps_speed_in_range_standard :
    let store : Store Float := ⟨[], [], [⟨"vehicle", [⟨0.0, 0.0, 0.0, 1.0⟩]⟩], [], [], none⟩
    let config : Config Float := .standard
    let ops : List (Op Float) := [.setSpeed Machine.undefined, .tick (-1.0), .setSpeed (-2.0),
      .tick Machine.infinity, .setSpeed Machine.infinity, .tick Machine.undefined, .restart, .frame]
    config.playback.check = .ok () ∧
      ∃ first last frames, start store config = .ok first ∧
        first.run ops = .ok (last, frames) ∧ (1.0 ≤ last.clock.speed ∧ last.clock.speed ≤ 20.0) ∧
        last.headings.length = 1 := by
  intro store config ops
  have valid : config.playback.check = .ok () := by decide
  obtain ⟨first, last, frames, started, ran, -, inRange, -, -, oneHeading, -⟩ :=
    run_keeps_speed_in_range store config valid ops
  exact ⟨valid, first, last, frames, started, ran, inRange, oneHeading⟩

end Session

end JunctionReplay
