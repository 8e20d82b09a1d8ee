import JunctionReplay.Proofs.Settings.Playback
import JunctionReplay.Settings.Document

/-!
# Accepted settings

Whatever settings come out of a text or a file have passed their check, and so have the standard
ones, which stand in for a file that is not there.

## Main Statements

* `Config.check_of_ofText`, `Config.check_of_ofFileOrStandard` — accepted settings have passed.
* `Config.isUsable_of_check` — a replay can be played with them.
-/

namespace JunctionReplay.Config

variable {config : Config Float}

/-- The settings of a text have passed their check. -/
theorem check_of_ofText {text : String} (accepted : ofText text = .ok config) :
    config.check = .ok () := by
  unfold ofText at accepted
  split at accepted
  next => cases accepted
  next document parsed =>
    split at accepted
    next => cases accepted
    next read decoded =>
      split at accepted
      next => cases accepted
      next passed =>
        cases accepted
        exact passed

/-- The settings of a file, or the standard ones in place of one, have passed their check. -/
theorem check_of_ofFileOrStandard {file : FileState}
    (accepted : ofFileOrStandard file = .ok config) : config.check = .ok () := by
  unfold ofFileOrStandard at accepted
  split at accepted
  next =>
    unfold ofFile at accepted
    split at accepted
    next => cases accepted
    next text read => exact check_of_ofText accepted
  next =>
    cases accepted
    decide

/-- A replay can be played with settings that have passed their check. -/
theorem isUsable_of_check {α : Type} [Scalar α] [OrderedScalar α] {config : Config α}
    (passed : config.check = .ok ()) : config.playback.IsUsable := by
  unfold check at passed
  cases playback : config.playback.check with
  | error fault =>
      rw [playback] at passed
      cases passed
  | ok => exact (PlaybackSettings.check_eq_ok_iff config.playback).mp playback

end JunctionReplay.Config
