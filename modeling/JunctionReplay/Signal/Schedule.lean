import JunctionReplay.Scalar

/-!
# Schedules of traffic lights

A light runs through its phases in turn and starts again.  Its schedule lists the start of each
phase within one cycle and closes with an entry at the end of the cycle that shows the first
state again.

`stateAt?` wraps a time into the cycle and takes the last entry that is not later.
-/

namespace JunctionReplay

/-- A segment of a cycle, with one character of its state for each signal index. -/
structure Phase (α : Type) where
  duration : α
  state : String
  deriving DecidableEq, Repr

/-- The time from which a state is shown. -/
structure ScheduleEntry (α : Type) where
  time : α
  state : String
  deriving DecidableEq, Repr

/-- The states of one cycle with the times from which they are shown. -/
structure Schedule (α : Type) where
  entries : List (ScheduleEntry α)
  deriving DecidableEq, Repr

namespace Schedule

variable {α : Type} [Scalar α]

/-- The entries of phases that follow each other from `time` on, and the closing entry. -/
def entriesFrom (closing : String) (time : α) : List (Phase α) → List (ScheduleEntry α)
  | [] => [⟨time, closing⟩]
  | phase :: rest => ⟨time, phase.state⟩ :: entriesFrom closing (time + phase.duration) rest

/-- The schedule of phases that are run through in turn; without phases it is empty. -/
def ofPhases : List (Phase α) → Schedule α
  | [] => ⟨[]⟩
  | first :: rest => ⟨entriesFrom first.state 0 (first :: rest)⟩

/-- The length of the cycle. -/
def cycleLength (schedule : Schedule α) : α :=
  match schedule.entries.getLast? with
  | some closing => closing.time
  | none => 0

/-- A time moved into the cycle by whole cycles. -/
def localTime (schedule : Schedule α) (time : α) : α :=
  if 0 < schedule.cycleLength then Scalar.wrap time schedule.cycleLength else time

/-- The place of the entry that holds at a time: the last one that is not later, or the first. -/
def activePlace (schedule : Schedule α) (time : α) : Nat :=
  let started := schedule.entries.takeWhile fun entry => entry.time ≤ schedule.localTime time
  started.length - 1

/-- The state that is shown at a time. -/
def stateAt? (schedule : Schedule α) (time : α) : Option String :=
  schedule.entries[schedule.activePlace time]?.map ScheduleEntry.state

end Schedule

end JunctionReplay
