import JunctionReplay.Fault
import JunctionReplay.Scalar
import JunctionReplay.Word

/-!
# Timings of the last frames

How long frames took is averaged over a window of the last ones, in whole nanoseconds rounded
down.  A window holds at least one frame.

* `FrameWindow.record` — enters a timing.
* `FrameWindow.mean` — the mean of a window as it is computed, with a sum whose seconds are counted
  in a word and with a divisor that is kept in half of one; it has no result where these do not do.
* `FrameWindow.average` — the mean in numbers without bounds.
-/

namespace JunctionReplay

/-- How long a frame took, and how much of that its computation, in nanoseconds. -/
structure FrameTiming where
  frame : Nat
  resolve : Nat
  deriving DecidableEq, Repr

/-- The timings of the last frames, the oldest one first. -/
structure FrameWindow where
  capacity : Nat
  timings : List FrameTiming
  deriving DecidableEq, Repr

/-- Why a mean has no result. -/
inductive MeanFault where
  /-- A sum with more whole seconds than a word of 64 bits can count. -/
  | sumTooLarge
  /-- A window whose size leaves nothing in a word of 32 bits. -/
  | zeroDivisor
  deriving DecidableEq, Repr

/-- The message for a mean that has no result. -/
def MeanFault.message : MeanFault → String
  | .sumTooLarge => "overflow in iter::sum over durations"
  | .zeroDivisor => "divide by zero error when dividing duration by scalar"

namespace FrameWindow

/-- The number of nanoseconds in a second. -/
def second : Nat := 1000000000

/-- A window for the given number of frames, but at least for one. -/
def empty (capacity : Nat) : FrameWindow := ⟨max capacity 1, []⟩

/-- The number of bytes that a timing takes. -/
def timingBytes : Nat := 32

/-- A window for the given number of frames, if the bytes of so many timings can be addressed. -/
def create (capacity : Nat) : Except Fault FrameWindow :=
  if max capacity 1 * timingBytes < Word.count 63 then .ok (empty capacity)
  else .error .windowTooLarge

/-- Enters a timing, for which the oldest one leaves a full window. -/
def record (window : FrameWindow) (timing : FrameTiming) : FrameWindow :=
  let kept :=
    if window.capacity ≤ window.timings.length then window.timings.drop 1 else window.timings
  { window with timings := kept ++ [timing] }

/-- The sum over the window. -/
def total (window : FrameWindow) (part : FrameTiming → Nat) : Nat :=
  window.timings.foldl (fun sum timing => sum + part timing) 0

/-- The mean of the window, rounded down; zero for an empty one. -/
def average (window : FrameWindow) (part : FrameTiming → Nat) : Nat :=
  if window.timings.isEmpty then 0
  else window.total part / window.timings.length

/-- The mean time of a frame. -/
def averageFrame (window : FrameWindow) : Nat := window.average FrameTiming.frame

/-- The mean time of the computation of a frame. -/
def averageResolve (window : FrameWindow) : Nat := window.average FrameTiming.resolve

/-- The sum over the window, if its whole seconds can be counted. -/
def sum (window : FrameWindow) (part : FrameTiming → Nat) : Except MeanFault Nat :=
  if window.total part < second * Word.count 64 then .ok (window.total part)
  else .error .sumTooLarge

/-- A time divided by a number of timings, of which a word of 32 bits is kept. -/
def divide (time timings : Nat) : Except MeanFault Nat :=
  let divisor := timings % Word.count 32
  if divisor = 0 then .error .zeroDivisor else .ok (time / divisor)

/-- The mean of the window as it is computed, zero for an empty one. -/
def mean (window : FrameWindow) (part : FrameTiming → Nat) : Except MeanFault Nat :=
  if window.timings.isEmpty then .ok 0
  else (window.sum part).bind fun total => divide total window.timings.length

/-- The mean time of a frame as it is computed. -/
def meanFrame (window : FrameWindow) : Except MeanFault Nat := window.mean FrameTiming.frame

/-- The mean time of the computation of a frame as it is computed. -/
def meanResolve (window : FrameWindow) : Except MeanFault Nat := window.mean FrameTiming.resolve

variable {α : Type} [Scalar α]

/-- A number of nanoseconds in seconds; whole seconds and the rest are added up. -/
def inSeconds (nanoseconds : Nat) : α :=
  ((nanoseconds / second : Nat) : α) + ((nanoseconds % second : Nat) : α) / (second : α)

/-- The number of frames in a second that take the given time, zero when they take none. -/
def paceOf (frameTime : Nat) : α :=
  if frameTime = 0 then 0 else 1 / inSeconds frameTime

/-- The mean number of frames in a second. -/
def framesPerSecond (window : FrameWindow) : α := paceOf window.averageFrame

/-- The mean number of frames in a second as it is computed. -/
def meanPace (window : FrameWindow) : Except MeanFault α := window.meanFrame.map paceOf

end FrameWindow

end JunctionReplay
