import JunctionReplay.Scalar

/-!
# The clock

The time of a replay runs faster or slower than real time by the speed of its clock, and stands
still while it is paused.  A clock keeps what it has when it is given a speed or a delta that
makes no sense.
-/

namespace JunctionReplay

/-- The clock of a replay. -/
structure Clock (α : Type) where
  time : α
  speed : α
  isPlaying : Bool
  deriving DecidableEq, Repr

namespace Clock

variable {α : Type} [Scalar α]

/-- Whether a clock can run at a speed. -/
def isSpeed (speed : α) : Bool :=
  Scalar.isFinite speed && !decide (speed ≤ 0)

/-- Whether a clock can be advanced by a delta. -/
def isDelta (delta : α) : Bool :=
  Scalar.isFinite delta && !decide (delta < 0)

/-- Sets the speed from the next advance on. -/
def setSpeed (clock : Clock α) (speed : α) : Clock α :=
  if isSpeed speed then { clock with speed := speed } else clock

@[simp] theorem time_setSpeed (clock : Clock α) (speed : α) :
    (clock.setSpeed speed).time = clock.time := by
  unfold setSpeed
  split <;> rfl

@[simp] theorem isPlaying_setSpeed (clock : Clock α) (speed : α) :
    (clock.setSpeed speed).isPlaying = clock.isPlaying := by
  unfold setSpeed
  split <;> rfl

/-- A clock at the start of a replay. -/
def start (speed : α) (isPlaying : Bool) : Clock α :=
  Clock.setSpeed ⟨0, 1, isPlaying⟩ speed

/-- The clock that runs in real time. -/
def realTime : Clock α := start 1.0 true

/-- Advances a running clock by an amount of real time. -/
def advance (clock : Clock α) (delta : α) : Clock α :=
  if clock.isPlaying && isDelta delta then
    { clock with time := clock.time + delta * clock.speed }
  else clock

@[simp] theorem speed_advance (clock : Clock α) (delta : α) :
    (clock.advance delta).speed = clock.speed := by
  unfold advance
  split <;> rfl

@[simp] theorem isPlaying_advance (clock : Clock α) (delta : α) :
    (clock.advance delta).isPlaying = clock.isPlaying := by
  unfold advance
  split <;> rfl

/-- Goes back to the start of the replay. -/
def restart (clock : Clock α) : Clock α :=
  { clock with time := 0 }

/-- Lets the clock run or stand. -/
def setPlaying (clock : Clock α) (isPlaying : Bool) : Clock α :=
  { clock with isPlaying := isPlaying }

end Clock

end JunctionReplay
