import JunctionReplay.Proofs.Run.ExactCopies
import JunctionReplay.Proofs.Run.Start

/-!
# Starting without rounding

Starting a session and setting its speed compare numbers and choose among them.  So it makes no
difference whether this is done in machine numbers and the result is copied exactly, or whether it
is done in exact arithmetic with exact copies.

## Main Statements

* `PlaybackSettings.IsUsable.toExact` — usable settings stay usable.
* `Session.start_toExact`, `Session.setSpeed_toExact` — with one session.
* `Comparison.start_toExact`, `Comparison.Begins.setSpeed_toExact` — with one or two sessions.
-/

namespace JunctionReplay

open Machine (exactValue)
open Scalar (IsNumber)

variable {config : Config Float}

/-- The nearest of the allowed values is the value of the nearest allowed number. -/
theorem Machine.exactValue_clamp {low high a : Float} (numberLow : IsNumber low)
    (numberHigh : IsNumber high) (numberA : IsNumber a) :
    exactValue (Scalar.clamp low high a) =
      Scalar.clamp (exactValue low) (exactValue high) (exactValue a) := by
  unfold Scalar.clamp
  dsimp only
  by_cases below : a < low
  · rw [if_pos below, if_pos (exactValue_lt below), apply_ite exactValue]
    simp only [exactValue_lt_iff numberHigh numberLow]
  · have notBelow : ¬ exactValue a < exactValue low :=
      fun lt => below ((exactValue_lt_iff numberA numberLow).mp lt)
    rw [if_neg below, if_neg notBelow, apply_ite exactValue]
    simp only [exactValue_lt_iff numberHigh numberA]

namespace PlaybackSettings.IsUsable

variable {settings : PlaybackSettings Float}

theorem toExact (usable : settings.IsUsable) : settings.toExact.IsUsable where
  isFinite_initialSpeed := rfl
  isFinite_minSpeed := rfl
  isFinite_maxSpeed := rfl
  minSpeed_pos := Machine.exactValue_pos usable.minSpeed_pos
  minSpeed_le_initialSpeed := Machine.exactValue_le usable.minSpeed_le_initialSpeed
  initialSpeed_le_maxSpeed := Machine.exactValue_le usable.initialSpeed_le_maxSpeed
  isFinite_frameRate := rfl
  frameRate_pos := Machine.exactValue_pos usable.frameRate_pos

/-- The allowed speed nearest to a number, in exact arithmetic. -/
theorem clamp_toExact (usable : settings.IsUsable) {speed : Float} (number : IsNumber speed) :
    Scalar.clamp settings.toExact.minSpeed settings.toExact.maxSpeed (exactValue speed) =
      exactValue (Scalar.clamp settings.minSpeed settings.maxSpeed speed) :=
  (Machine.exactValue_clamp (OrderedScalar.isNumber_of_isFinite usable.isFinite_minSpeed)
    (OrderedScalar.isNumber_of_isFinite usable.isFinite_maxSpeed) number).symm

theorem clampSpeed_toExact (usable : settings.IsUsable) {speed : Float} (number : IsNumber speed) :
    settings.toExact.clampSpeed (exactValue speed) =
      .ok (exactValue (Scalar.clamp settings.minSpeed settings.maxSpeed speed)) := by
  rw [PlaybackSettings.clampSpeed_eq _ usable.toExact.minSpeed_le_maxSpeed,
    usable.clamp_toExact number]

/-- Usable settings take a run further from frame to frame. -/
theorem frameDelta_pos {settings : PlaybackSettings Rat} (usable : settings.IsUsable) :
    0 < settings.frameDelta := by
  have one : (0 : Rat) < 1 := by decide
  refine (Rat.lt_div_iff usable.frameRate_pos).mpr ?_
  rwa [Rat.zero_mul]

end PlaybackSettings.IsUsable

/-- A clock takes an allowed speed in exact arithmetic, too. -/
theorem Clock.setSpeed_toExact (usable : config.playback.IsUsable) (clock : Clock Float)
    {speed : Float} (number : IsNumber speed) :
    clock.toExact.setSpeed (exactValue
        (Scalar.clamp config.playback.minSpeed config.playback.maxSpeed speed)) =
      (clock.setSpeed
        (Scalar.clamp config.playback.minSpeed config.playback.maxSpeed speed)).toExact := by
  have allowed := usable.isSpeed_of_allows (usable.allows_clamp number)
  have allowedExact := usable.toExact.isSpeed_of_allows
    (usable.toExact.allows_clamp (Rat.le_refl (a := exactValue speed)))
  rw [usable.clamp_toExact number] at allowedExact
  rw [Clock.setSpeed_of_isSpeed allowed, Clock.setSpeed_of_isSpeed allowedExact]
  rfl

/-! ## One session -/

/-- What starts in exact arithmetic is the copy of what starts in machine numbers. -/
theorem Session.start_toExact (usable : config.playback.IsUsable) (store : Store Float) :
    start store.toExact config.toExact = (start store config).map Session.toExact := by
  have number := OrderedScalar.isNumber_of_isFinite usable.isFinite_initialSpeed
  have clamped := PlaybackSettings.clampSpeed_eq config.playback.initialSpeed
    usable.minSpeed_le_maxSpeed
  have clampedExact :
      config.toExact.playback.clampSpeed config.toExact.playback.initialSpeed = .ok _ :=
    usable.clampSpeed_toExact number
  have clock := Clock.setSpeed_toExact usable ⟨0, 1, config.playback.startsPlaying⟩ number
  have atRest : Clock.toExact ⟨0, 1, config.playback.startsPlaying⟩ =
      ⟨0, 1, config.playback.startsPlaying⟩ := by
    have one : exactValue 1.0 = 1 := by decide +kernel
    change Clock.mk (exactValue 0.0) (exactValue 1.0) _ = _
    rw [Machine.exactValue_zero, one]
  have headings : restHeadings store.toExact = (restHeadings store).map exactValue := by
    simp only [restHeadings, Store.toExact, List.map_map]
    exact List.map_congr_left fun _ _ => Machine.exactValue_zero.symm
  rw [atRest] at clock
  unfold start
  rw [clamped, clampedExact, headings]
  exact congrArg
    (fun clock => Except.ok (Session.mk store.toExact config.directions config.playback.toExact
      clock ((restHeadings store).map exactValue))) clock

/-- Setting a speed in exact arithmetic comes to the copy of setting it in machine numbers. -/
theorem Session.setSpeed_toExact (usable : config.playback.IsUsable) {session : Session Float}
    {store : Store Float} (sound : session.IsSound store config) {speed : Float}
    (number : IsNumber speed) :
    session.toExact.setSpeed (exactValue speed) =
      (session.setSpeed speed).map Session.toExact := by
  have clampedExact : session.toExact.settings.clampSpeed (exactValue speed) = .ok (exactValue
      (Scalar.clamp config.playback.minSpeed config.playback.maxSpeed speed)) := by
    change session.settings.toExact.clampSpeed _ = _
    rw [sound.settings_eq]
    exact usable.clampSpeed_toExact number
  have clock := Clock.setSpeed_toExact usable session.clock number
  unfold setSpeed
  rw [clampSpeed_settings usable sound speed, clampedExact]
  exact congrArg (fun clock => Except.ok { session.toExact with clock := clock }) clock

/-! ## One or two sessions -/

theorem Comparison.start_toExact (usable : config.playback.IsUsable) (baseline : Store Float)
    (optimized : Option (Store Float)) :
    start baseline.toExact (optimized.map Store.toExact) config.toExact =
      (start baseline optimized config).map Comparison.toExact := by
  unfold start
  rw [Session.start_toExact usable]
  cases optimized with
  | none => cases Session.start baseline config <;> rfl
  | some store =>
      dsimp only [Option.map_some, ifPresent]
      rw [Session.start_toExact usable]
      cases Session.start baseline config with
      | error fault => rfl
      | ok first => cases Session.start store config <;> rfl

theorem Comparison.Begins.setSpeed_toExact (usable : config.playback.IsUsable)
    {view : Comparison Float} {baseline : Store Float} {optimized : Option (Store Float)}
    {clock : Clock Float} (begins : view.Begins baseline optimized config clock) {speed : Float}
    (number : IsNumber speed) :
    view.toExact.setSpeed (exactValue speed) = (view.setSpeed speed).map Comparison.toExact := by
  obtain ⟨first, second⟩ := view
  obtain ⟨-, -, beginsFirst, beginsSecond⟩ := begins
  unfold setSpeed
  dsimp only [toExact]
  rw [Session.setSpeed_toExact usable beginsFirst.isSound number]
  cases beginsSecond with
  | none => cases first.setSpeed speed <;> rfl
  | @some second store beginsSecond =>
      dsimp only [Option.map_some, ifPresent]
      rw [Session.setSpeed_toExact usable beginsSecond.isSound number]
      cases first.setSpeed speed with
      | error fault => rfl
      | ok first => cases second.setSpeed speed <;> rfl

end JunctionReplay
