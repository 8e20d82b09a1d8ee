import JunctionReplay.Approach
import JunctionReplay.Decimal.Written
import JunctionReplay.Fault
import JunctionReplay.Signal.Cycle

/-!
# Settings

What can be set for a replay: how it is played, how long the phases of a standard cycle are,
which side each road comes from, and how the scene is drawn.

Each group of settings has a check that finds its first fault.  A `Config` is usable when all of
its checks pass; they are made in the order playback, cycle, scene.
-/

namespace JunctionReplay

/-- How a replay is played. -/
structure PlaybackSettings (α : Type) where
  initialSpeed : α
  minSpeed : α
  maxSpeed : α
  startsPlaying : Bool
  /-- The number of frames in a second. -/
  frameRate : α
  deriving DecidableEq, Repr

/-- How the scene is drawn. -/
structure SceneSettings (α : Type) where
  /-- The seed of the vehicle colors, which are left to chance without one. -/
  seed : Option Nat
  laneWidth : Option α
  deriving DecidableEq, Repr

/-- Everything that can be set. -/
structure Config (α : Type) where
  playback : PlaybackSettings α
  cycle : CycleTiming α
  directions : Directions
  scene : SceneSettings α
  deriving DecidableEq, Repr

/-- What is wrong with settings. -/
inductive SettingsError (α : Type) where
  | speedNotFinite (name : String) (speed : α)
  | minSpeedNotPositive
  | emptySpeedRange (minimum maximum : α)
  | initialSpeedOutside (initial minimum maximum : α)
  | frameRateNotPositive
  | durationNotPositive (name : String)
  | noFallbackState
  | laneWidthNotPositive
  deriving DecidableEq, Repr

/-- The message for a fault in settings. -/
def SettingsError.message : SettingsError Float → String
  | .speedNotFinite name speed =>
    "Playback speed '" ++ name ++ "' must be finite, got " ++ Decimal.plain speed
  | .minSpeedNotPositive => "Minimum playback speed must be positive"
  | .emptySpeedRange minimum maximum =>
    "Minimum playback speed " ++ Decimal.plain minimum ++ " exceeds maximum " ++
      Decimal.plain maximum
  | .initialSpeedOutside initial minimum maximum =>
    "Initial speed " ++ Decimal.plain initial ++ " is out of range (" ++ Decimal.plain minimum ++
      "-" ++ Decimal.plain maximum ++ ")"
  | .frameRateNotPositive => "Frame rate must be positive"
  | .durationNotPositive name => "Signal phase '" ++ name ++ "' must have a positive duration"
  | .noFallbackState => "Fallback state length must be greater than zero"
  | .laneWidthNotPositive => "Road lane width must be positive"

variable {α : Type} [Scalar α]

namespace PlaybackSettings

/-- The settings that hold unless they are set otherwise. -/
def standard : PlaybackSettings α where
  initialSpeed := 5.0
  minSpeed := 1.0
  maxSpeed := 20.0
  startsPlaying := true
  frameRate := 60.0

/-- The time from one frame to the next. -/
def frameDelta (settings : PlaybackSettings α) : α :=
  1 / settings.frameRate

/-- The allowed speed nearest to the given one; without allowed speeds there is none. -/
def clampSpeed (settings : PlaybackSettings α) (speed : α) : Except Fault α :=
  if settings.minSpeed ≤ settings.maxSpeed then
    .ok (Scalar.clamp settings.minSpeed settings.maxSpeed speed)
  else .error .emptySpeedRange

/-- The speeds with their names. -/
def namedSpeeds (settings : PlaybackSettings α) : List (String × α) :=
  [ ("initial_speed", settings.initialSpeed), ("min_speed", settings.minSpeed),
    ("max_speed", settings.maxSpeed) ]

/-- Finds the first fault. -/
def check (settings : PlaybackSettings α) : Except (SettingsError α) Unit :=
  match settings.namedSpeeds.find? fun named => !Scalar.isFinite named.2 with
  | some (name, speed) => .error (.speedNotFinite name speed)
  | none =>
    if settings.minSpeed ≤ 0 then .error .minSpeedNotPositive
    else if settings.maxSpeed < settings.minSpeed then
      .error (.emptySpeedRange settings.minSpeed settings.maxSpeed)
    else if settings.initialSpeed < settings.minSpeed ∨
        settings.maxSpeed < settings.initialSpeed then
      .error (.initialSpeedOutside settings.initialSpeed settings.minSpeed settings.maxSpeed)
    else if !Scalar.isFinite settings.frameRate ∨ settings.frameRate ≤ 0 then
      .error .frameRateNotPositive
    else .ok ()

end PlaybackSettings

namespace CycleTiming

/-- The durations of the phases with their names. -/
def namedDurations (timing : CycleTiming α) : List (String × α) :=
  [ ("ns_green", timing.northSouthGreen), ("ns_yellow", timing.northSouthYellow),
    ("ew_green", timing.eastWestGreen), ("ew_yellow", timing.eastWestYellow) ]

/-- Finds the first fault. -/
def check (timing : CycleTiming α) : Except (SettingsError α) Unit :=
  match timing.namedDurations.find? fun named =>
      !Scalar.isFinite named.2 || decide (named.2 ≤ 0) with
  | some (name, _) => .error (.durationNotPositive name)
  | none => if timing.fallbackStateLength = 0 then .error .noFallbackState else .ok ()

end CycleTiming

namespace SceneSettings

/-- The settings that hold unless they are set otherwise. -/
def standard : SceneSettings α where
  seed := none
  laneWidth := none

/-- Finds the first fault. -/
def check (settings : SceneSettings α) : Except (SettingsError α) Unit :=
  match settings.laneWidth with
  | some width => if width ≤ 0 then .error .laneWidthNotPositive else .ok ()
  | none => .ok ()

end SceneSettings

namespace Config

/-- The settings that hold unless they are set otherwise. -/
def standard : Config α where
  playback := .standard
  cycle := .standard
  directions := .standard
  scene := .standard

/-- Finds the first fault. -/
def check (config : Config α) : Except (SettingsError α) Unit := do
  config.playback.check
  config.cycle.check
  config.scene.check

end Config

end JunctionReplay
