import JunctionReplay.Pace
import JunctionReplay.Proofs.Scalar.Reciprocal
import JunctionReplay.Proofs.Settings.Accepted

/-!
# The time from frame to frame

The check of the settings looks at the frame rate, which has to be finite and positive.  What a run
uses is its reciprocal: a fast run advances its clocks by it, and a run in real time pauses for it
after each frame but the last.  For a frame rate that is too small this fails.  The reciprocal is
infinite up to the 1024th negative power of two, and then the clocks stand still; up to the 64th one
it is too large for a pause, and then the run in real time breaks off at its first pause.

## Main Definitions

* `IsPlayable` — a delta that a clock takes and that a run can pause for.

## Main Statements

* `Run.playPaused_eq_error_iff` — when a run in real time breaks off.
* `Config.ofText_frameDelta` — what the frame deltas of accepted settings are good for.
* `Config.ofText_infinite_frameDelta` — accepted settings whose frame delta is good for nothing.
-/

namespace JunctionReplay

open Machine (exactValue)

/-- A time from frame to frame that a clock takes and that a run can pause for. -/
structure IsPlayable {α : Type} [Scalar α] (delta : α) : Prop where
  pos : 0 < delta
  isFinite : Scalar.isFinite delta
  checkPause_eq : checkPause delta = .ok ()

section

variable {α : Type} [Scalar α]

/-- A run in real time breaks off exactly at its first pause, that is if it has one: if its first
frame is not the last. -/
theorem Run.playPaused_eq_error_iff [Planar α] {pause duration : α} {measured : List α}
    {run : Run α} {fault : PauseFault} :
    run.playPaused pause duration measured = some (.error fault) ↔
      checkPause pause = .error fault ∧
        ∃ first rest, measured = first :: rest ∧
          (run.advance first).next.isOver duration = false := by
  induction measured generalizing run with
  | nil => simp [playPaused]
  | cons first rest ih =>
      unfold playPaused
      cases ended : (run.advance first).next.isOver duration with
      | true => simp [ended]
      | false =>
          cases pauses : checkPause pause with
          -- A pause that is possible once is so each time.
          | ok => simp [ended, ih, pauses]
          | error fault' => simp [ended]

variable [OrderedScalar α]

/-- A positive number of seconds is a pause unless it is too large for one. -/
theorem checkPause_of_pos {seconds : α} (positive : 0 < seconds) :
    checkPause seconds =
      if seconds < (Word.count 64 : Nat) then .ok () else .error .tooLarge :=
  if_neg (Scalar.not_lt_of_le (Scalar.le_of_lt positive))

/-- A running clock takes a positive delta unless it is infinite. -/
theorem Clock.advance_of_pos {clock : Clock α} {delta : α} (playing : clock.isPlaying)
    (positive : 0 < delta) :
    clock.advance delta =
      if Scalar.isFinite delta then { clock with time := clock.time + delta * clock.speed }
      else clock := by
  have notNegative : ¬ delta < 0 := Scalar.not_lt_of_le (Scalar.le_of_lt positive)
  simp [Clock.advance, isDelta, playing, notNegative]

end

namespace PlaybackSettings.IsUsable

variable {settings : PlaybackSettings Float}

theorem frameDelta_positive (usable : settings.IsUsable) : 0 < settings.frameDelta :=
  Machine.reciprocal_pos usable.frameRate_pos usable.isFinite_frameRate

theorem isFinite_frameDelta_iff (usable : settings.IsUsable) :
    Scalar.isFinite settings.frameDelta ↔
      (2 : Rat) ^ (-1024 : Int) < exactValue settings.frameRate :=
  Machine.isFinite_reciprocal_iff usable.frameRate_pos usable.isFinite_frameRate

/-- A frame delta is a pause, or else too large for one. -/
theorem checkPause_frameDelta (usable : settings.IsUsable) :
    checkPause settings.frameDelta =
      if (2 : Rat) ^ (-64 : Int) < exactValue settings.frameRate then .ok ()
      else .error .tooLarge := by
  have below : settings.frameDelta < (Word.count 64 : Nat) ↔
      (2 : Rat) ^ (-64 : Int) < exactValue settings.frameRate :=
    Machine.reciprocal_lt_count_iff usable.frameRate_pos usable.isFinite_frameRate
  rw [checkPause_of_pos usable.frameDelta_positive]
  exact if_congr below rfl rfl

/-- A running clock takes a frame delta that is finite, and stands still at an infinite one. -/
theorem advance_frameDelta (usable : settings.IsUsable) {clock : Clock Float}
    (playing : clock.isPlaying) :
    clock.advance settings.frameDelta =
      if (2 : Rat) ^ (-1024 : Int) < exactValue settings.frameRate then
        { clock with time := clock.time + settings.frameDelta * clock.speed }
      else clock := by
  rw [Clock.advance_of_pos playing usable.frameDelta_positive]
  exact if_congr usable.isFinite_frameDelta_iff rfl rfl

theorem isPlayable_frameDelta_iff (usable : settings.IsUsable) :
    IsPlayable settings.frameDelta ↔
      (2 : Rat) ^ (-64 : Int) < exactValue settings.frameRate := by
  have pauses := usable.checkPause_frameDelta
  constructor
  · intro playable
    by_contra notAbove
    rw [if_neg notAbove, playable.checkPause_eq] at pauses
    cases pauses
  · intro above
    rw [if_pos above] at pauses
    -- What one can pause for is finite.
    have further : (2 : Rat) ^ (-1024 : Int) < 2 ^ (-64 : Int) := by decide +kernel
    have finite := usable.isFinite_frameDelta_iff.mpr (further.trans above)
    exact ⟨usable.frameDelta_positive, finite, pauses⟩

/-- A run in real time breaks off at its first pause if the frame delta is too large for one. -/
theorem playPaused_frameDelta_iff (usable : settings.IsUsable) {duration : Float}
    {measured : List Float} {run : Run Float} {fault : PauseFault} :
    run.playPaused settings.frameDelta duration measured = some (.error fault) ↔
      fault = .tooLarge ∧ exactValue settings.frameRate ≤ (2 : Rat) ^ (-64 : Int) ∧
        ∃ first rest, measured = first :: rest ∧
          (run.advance first).next.isOver duration = false := by
  have faulty : checkPause settings.frameDelta = .error fault ↔
      fault = .tooLarge ∧ exactValue settings.frameRate ≤ (2 : Rat) ^ (-64 : Int) := by
    rw [usable.checkPause_frameDelta, ← not_lt]
    split
    next above =>
      constructor
      · intro none
        cases none
      · intro refused
        exact absurd above refused.2
    next notAbove =>
      constructor
      · rintro ⟨⟩
        exact ⟨rfl, notAbove⟩
      · rintro ⟨rfl, -⟩
        rfl
  rw [Run.playPaused_eq_error_iff, faulty, and_assoc]

end PlaybackSettings.IsUsable

namespace Config

/-- **Frame deltas of accepted settings.**  They are positive.  A clock takes them, and a run can
pause for them, exactly above the 64th negative power of two.  A running clock stands still at them
exactly up to the 1024th one, where they are infinite, and is advanced by them otherwise.  A run in
real time breaks off exactly if the frame rate lies at or below the 64th one and the first frame is
not the last, and then because the pause is too large. -/
theorem ofText_frameDelta {text : String} {config : Config Float}
    (accepted : ofText text = .ok config) :
    let rate := exactValue config.playback.frameRate
    let delta := config.playback.frameDelta
    0 < delta ∧
      (IsPlayable delta ↔ (2 : Rat) ^ (-64 : Int) < rate) ∧
      (Scalar.isFinite delta ↔ (2 : Rat) ^ (-1024 : Int) < rate) ∧
      (∀ clock : Clock Float, clock.isPlaying →
        clock.advance delta =
          if (2 : Rat) ^ (-1024 : Int) < rate then
            { clock with time := clock.time + delta * clock.speed }
          else clock) ∧
      ∀ (run : Run Float) (duration : Float) (measured : List Float) (fault : PauseFault),
        run.playPaused delta duration measured = some (.error fault) ↔
          fault = .tooLarge ∧ rate ≤ (2 : Rat) ^ (-64 : Int) ∧
            ∃ first rest, measured = first :: rest ∧
              (run.advance first).next.isOver duration = false := by
  have usable := isUsable_of_check (check_of_ofText accepted)
  refine ⟨usable.frameDelta_positive, usable.isPlayable_frameDelta_iff,
    usable.isFinite_frameDelta_iff, ?_, ?_⟩
  · intro clock playing
    exact usable.advance_frameDelta playing
  · intro run duration measured fault
    exact usable.playPaused_frameDelta_iff

/-- A text whose frame rate can be read is accepted with it. -/
theorem exists_ofText_of_frameRate {text : String} {rate : Float}
    (read : (ofText text).toOption.map (·.playback.frameRate) = some rate) :
    ∃ config, ofText text = .ok config ∧ config.playback.frameRate = rate := by
  obtain ⟨config, isAccepted, rate_eq⟩ := Option.map_eq_some_iff.mp read
  refine ⟨config, ?_, rate_eq⟩
  cases accepted : ofText text with
  | error fault =>
      rw [accepted] at isAccepted
      cases isAccepted
  | ok accepted' =>
      rw [accepted] at isAccepted
      cases isAccepted
      rfl

/-- The frame delta of a frame rate that is just above the 64th negative power of two. -/
theorem ofText_frameDelta_long_pause :
    ∃ config, ofText "[playback]
frame_rate = 5.5e-20" = .ok config ∧ IsPlayable config.playback.frameDelta := by
  obtain ⟨config, accepted, rate⟩ : ∃ config, ofText "[playback]
frame_rate = 5.5e-20" = .ok config ∧ config.playback.frameRate = 5.5e-20 :=
    exists_ofText_of_frameRate (by decide +kernel)
  refine ⟨config, accepted, (ofText_frameDelta accepted).2.1.mpr ?_⟩
  rw [rate]
  decide +kernel

/-- Accepted settings whose frame delta is infinite: clocks stand still at it, and it is too large
for a pause. -/
theorem ofText_infinite_frameDelta :
    ∃ config, ofText "[playback]
frame_rate = 1e-310" = .ok config ∧
      ¬ Scalar.isFinite config.playback.frameDelta ∧
      Clock.realTime.advance config.playback.frameDelta = Clock.realTime ∧
      checkPause config.playback.frameDelta = .error .tooLarge := by
  obtain ⟨config, accepted, rate⟩ : ∃ config, ofText "[playback]
frame_rate = 1e-310" = .ok config ∧ config.playback.frameRate = 1e-310 :=
    exists_ofText_of_frameRate (by decide +kernel)
  refine ⟨config, accepted, ?_⟩
  rw [PlaybackSettings.frameDelta, rate]
  decide +kernel

end Config

end JunctionReplay
