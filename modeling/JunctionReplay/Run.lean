import JunctionReplay.Comparison
import JunctionReplay.Decimal.Written

/-!
# Runs

A run plays one or two sessions frame by frame, each frame a delta of real time after the one
before, until a duration has passed.  Once in every second of the run a frame is reported.

`play` gives the whole run for a constant delta.  It is `none` for runs that have no end because
the delta does not carry the run on.
-/

namespace JunctionReplay

/-- A duration that no run can have. -/
structure BadDuration (α : Type) where
  requested : α
  deriving DecidableEq, Repr

/-- The message for a duration that no run can have. -/
def BadDuration.message (bad : BadDuration Float) : String :=
  "Run duration must be a non-negative number of seconds, got " ++ Decimal.plain bad.requested

section

variable {α : Type} [Scalar α]

/-- The duration of a run: the requested one, or else the time that it takes to play to the end,
with one more second for the last state. -/
def runDuration (requested : Option α) (endTime speed : α) : Except (BadDuration α) α :=
  match requested with
  | some duration =>
    if !Scalar.isFinite duration ∨ duration < 0 then .error ⟨duration⟩ else .ok duration
  | none => .ok (endTime / speed + 1.0)

end

/-- A run between two frames. -/
structure Run (α : Type) where
  view : Comparison α
  elapsed : α
  /-- The time from which on the next frame is reported. -/
  nextReport : α
  frames : Nat
  deriving DecidableEq, Repr

/-- A frame of a run with what it leaves. -/
structure RunFrame (α : Type) where
  shown : ComparisonFrame α
  isReported : Bool
  next : Run α
  deriving DecidableEq, Repr

/-- A run as a whole. -/
structure RunSummary (α : Type) where
  /-- The frames that were reported, in their order. -/
  reports : List (RunFrame α)
  last : RunFrame α
  deriving DecidableEq, Repr

namespace Run

variable {α : Type} [Scalar α]

/-- A run in front of its first frame. -/
def start (view : Comparison α) : Run α := ⟨view, 0, 0, 0⟩

/-- Whether a run has lasted long enough. -/
def isOver (run : Run α) (duration : α) : Bool := duration ≤ run.elapsed

/-- The most frames that a run with a constant delta is followed for, about twice as many as its
duration takes up. -/
def frameLimit (delta duration : α) : Nat :=
  if 0 < delta then 2 * Scalar.wholeUnits (duration / delta) + 2 else 1

variable [Planar α]

/-- The next frame of a run. -/
def advance (run : Run α) (delta : α) : RunFrame α :=
  let elapsed := run.elapsed + delta
  let isReported : Bool := run.nextReport ≤ elapsed
  let (view, shown) := run.view.tick delta
  { shown := shown
    isReported := isReported
    next :=
      { view := view
        elapsed := elapsed
        nextReport := if isReported then run.nextReport + 1 else run.nextReport
        frames := run.frames + 1 } }

/-- The run up to its end, in at most `fuel` frames; `reports` holds the last report first. -/
def playFrom (delta duration : α) (reports : List (RunFrame α)) :
    (fuel : Nat) → Run α → Option (RunSummary α)
  | 0, _ => none
  | fuel + 1, run =>
    let frame := run.advance delta
    let reports := if frame.isReported then frame :: reports else reports
    if frame.next.isOver duration then some ⟨reports.reverse, frame⟩
    else playFrom delta duration reports fuel frame.next

/-- The whole run of one or two sessions. -/
def play (view : Comparison α) (delta duration : α) : Option (RunSummary α) :=
  playFrom delta duration [] (frameLimit delta duration) (start view)

end Run

end JunctionReplay
