import JunctionReplay.Proofs.Scalar.Order
import JunctionReplay.Settings

/-!
# Usable playback settings

The check of playback settings passes exactly for usable ones: their speeds and their frame rate
are finite and positive, and the initial speed lies in the allowed range.  It compares numbers only
after it has made sure that they are finite, so that no undefined one gets through a comparison.

Every speed of the allowed range is finite and positive, and there is one nearest to every number.

## Main Statements

* `PlaybackSettings.check_eq_ok_iff` — which settings pass.
* `PlaybackSettings.IsUsable.allows_clamp` — clamping moves a number into the range.
* `PlaybackSettings.IsUsable.isFinite_of_allows`, `PlaybackSettings.IsUsable.pos_of_allows` — what
  the range is made of.
-/

namespace JunctionReplay.PlaybackSettings

open Scalar (IsNumber)

variable {α : Type} [Scalar α]

/-- Settings with which a replay can be played. -/
structure IsUsable (settings : PlaybackSettings α) : Prop where
  isFinite_initialSpeed : Scalar.isFinite settings.initialSpeed
  isFinite_minSpeed : Scalar.isFinite settings.minSpeed
  isFinite_maxSpeed : Scalar.isFinite settings.maxSpeed
  minSpeed_pos : 0 < settings.minSpeed
  minSpeed_le_initialSpeed : settings.minSpeed ≤ settings.initialSpeed
  initialSpeed_le_maxSpeed : settings.initialSpeed ≤ settings.maxSpeed
  isFinite_frameRate : Scalar.isFinite settings.frameRate
  frameRate_pos : 0 < settings.frameRate

/-- Whether a speed lies in the allowed range. -/
structure Allows (settings : PlaybackSettings α) (speed : α) : Prop where
  minSpeed_le : settings.minSpeed ≤ speed
  le_maxSpeed : speed ≤ settings.maxSpeed

/-- No speed is named as infinite or undefined exactly if all three are finite. -/
theorem find?_namedSpeeds_eq_none_iff (settings : PlaybackSettings α) :
    (settings.namedSpeeds.find? fun named => !Scalar.isFinite named.2) = none ↔
      Scalar.isFinite settings.initialSpeed ∧ Scalar.isFinite settings.minSpeed ∧
        Scalar.isFinite settings.maxSpeed := by
  simp [namedSpeeds]

theorem clampSpeed_eq {settings : PlaybackSettings α} (speed : α)
    (ordered : settings.minSpeed ≤ settings.maxSpeed) :
    settings.clampSpeed speed =
      .ok (Scalar.clamp settings.minSpeed settings.maxSpeed speed) :=
  if_pos ordered

variable [OrderedScalar α] {settings : PlaybackSettings α} {speed : α}

namespace IsUsable

theorem minSpeed_le_maxSpeed (usable : settings.IsUsable) :
    settings.minSpeed ≤ settings.maxSpeed :=
  OrderedScalar.le_trans usable.minSpeed_le_initialSpeed usable.initialSpeed_le_maxSpeed

/-- An allowed speed is finite, since it lies between finite ones. -/
theorem isFinite_of_allows (usable : settings.IsUsable) (allowed : settings.Allows speed) :
    Scalar.isFinite speed :=
  OrderedScalar.isFinite_of_le_of_le usable.isFinite_minSpeed usable.isFinite_maxSpeed
    allowed.minSpeed_le allowed.le_maxSpeed

theorem pos_of_allows (usable : settings.IsUsable) (allowed : settings.Allows speed) :
    0 < speed :=
  Scalar.lt_of_lt_of_le usable.minSpeed_pos allowed.minSpeed_le

/-- The nearest allowed speed of a number is allowed. -/
theorem allows_clamp (usable : settings.IsUsable) (number : IsNumber speed) :
    settings.Allows (Scalar.clamp settings.minSpeed settings.maxSpeed speed) where
  minSpeed_le := Scalar.le_clamp usable.minSpeed_le_maxSpeed number
  le_maxSpeed := Scalar.clamp_le usable.minSpeed_le_maxSpeed number

end IsUsable

/-- **The check of playback settings.**  It passes exactly for usable settings. -/
theorem check_eq_ok_iff (settings : PlaybackSettings α) :
    settings.check = .ok () ↔ settings.IsUsable := by
  constructor
  · intro passed
    unfold check at passed
    split at passed
    next => cases passed
    next noneFound =>
      obtain ⟨finiteInitial, finiteMin, finiteMax⟩ :=
        settings.find?_namedSpeeds_eq_none_iff.mp noneFound
      have initial := OrderedScalar.isNumber_of_isFinite finiteInitial
      have minimum := OrderedScalar.isNumber_of_isFinite finiteMin
      have maximum := OrderedScalar.isNumber_of_isFinite finiteMax
      -- Past each test that did not find a fault stands what it makes sure of.
      split at passed
      next => cases passed
      split at passed
      next => cases passed
      split at passed
      next => cases passed
      split at passed
      next => cases passed
      next positive nonempty inside runs =>
        have finiteRate : Scalar.isFinite settings.frameRate := by
          simpa using fun infinite => runs (Or.inl infinite)
        have rate := OrderedScalar.isNumber_of_isFinite finiteRate
        exact
          { isFinite_initialSpeed := finiteInitial
            isFinite_minSpeed := finiteMin
            isFinite_maxSpeed := finiteMax
            minSpeed_pos := Scalar.lt_of_not_le Scalar.isNumber_zero minimum positive
            minSpeed_le_initialSpeed :=
              Scalar.le_of_not_lt minimum initial fun below => inside (Or.inl below)
            initialSpeed_le_maxSpeed :=
              Scalar.le_of_not_lt initial maximum fun above => inside (Or.inr above)
            isFinite_frameRate := finiteRate
            frameRate_pos := Scalar.lt_of_not_le Scalar.isNumber_zero rate fun still => runs (Or.inr still) }
  · intro usable
    have noneFound := settings.find?_namedSpeeds_eq_none_iff.mpr
      ⟨usable.isFinite_initialSpeed, usable.isFinite_minSpeed, usable.isFinite_maxSpeed⟩
    have positive := Scalar.not_le_of_lt usable.minSpeed_pos
    have nonempty := Scalar.not_lt_of_le usable.minSpeed_le_maxSpeed
    have notBelow := Scalar.not_lt_of_le usable.minSpeed_le_initialSpeed
    have notAbove := Scalar.not_lt_of_le usable.initialSpeed_le_maxSpeed
    have runs := Scalar.not_le_of_lt usable.frameRate_pos
    simp [check, noneFound, positive, nonempty, notBelow, notAbove, usable.isFinite_frameRate, runs]

end JunctionReplay.PlaybackSettings
