import JunctionReplay.Run
import JunctionReplay.Word

/-!
# Runs in real time

A run in real time pauses after each frame but the last, for the time that a frame is to take.  The
deltas of its frames are measured, so that they are whatever really passed between two frames.

A pause is kept as whole seconds in a word and a part of a second.  A number of seconds that is
below zero, undefined or too large for that breaks the run off.
-/

namespace JunctionReplay

/-- Why a number of seconds is no pause. -/
inductive PauseFault where
  | negative
  | tooLarge
  deriving DecidableEq, Repr

/-- The message for a number of seconds that is no pause. -/
def PauseFault.message : PauseFault → String
  | .negative => "cannot convert float seconds to Duration: value is negative"
  | .tooLarge => "cannot convert float seconds to Duration: value is either too big or NaN"

variable {α : Type} [Scalar α]

/-- Whether one can pause for a number of seconds. -/
def checkPause (seconds : α) : Except PauseFault Unit :=
  if seconds < 0 then .error .negative
  else if seconds < (Word.count 64 : Nat) then .ok ()
  else .error .tooLarge

namespace Run

variable [Planar α]

/-- The run up to its last frame, with a delta that was measured for each frame and a pause of
`pause` seconds in front of each frame but the first.  `none` if the run is not over with the last
delta. -/
def playPaused (pause duration : α) :
    (measured : List α) → Run α → Option (Except PauseFault (RunFrame α))
  | [], _ => none
  | delta :: measured, run =>
    let frame := run.advance delta
    if frame.next.isOver duration then some (.ok frame)
    else
      match checkPause pause with
      | .ok () => playPaused pause duration measured frame.next
      | .error fault => some (.error fault)

end Run

end JunctionReplay
