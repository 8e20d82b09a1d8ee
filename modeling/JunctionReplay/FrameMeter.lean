import JunctionReplay.FrameWindow

/-!
# Measuring frames

A meter is told the time at which each frame begins, and how long its computation took.  It gives
the time from one frame to the next and keeps the timings of the last frames.
-/

namespace JunctionReplay

/-- What is known of the frames so far; all times are in nanoseconds. -/
structure FrameMeter where
  window : FrameWindow
  /-- The time at which the last frame began. -/
  lastBegin : Option Nat
  /-- How long the computation of the last frame took. -/
  resolve : Nat
  deriving DecidableEq, Repr

namespace FrameMeter

/-- A meter that has seen no frame. -/
def start (capacity : Nat) : FrameMeter := ⟨.empty capacity, none, 0⟩

/-- Begins a frame and gives the time since the last one began, zero for the first one. -/
def beginFrame (meter : FrameMeter) (now : Nat) : FrameMeter × Nat :=
  match meter.lastBegin with
  | none => ({ meter with lastBegin := some now, resolve := 0 }, 0)
  | some last =>
    let passed := now - last
    ({ window := meter.window.record ⟨passed, meter.resolve⟩
       lastBegin := some now
       resolve := 0 }, passed)

/-- Enters how long the computation of the current frame took. -/
def endResolve (meter : FrameMeter) (taken : Nat) : FrameMeter := { meter with resolve := taken }

end FrameMeter

end JunctionReplay
