/-!
# Faults

The operations that have no result for some of their inputs.  They are kept apart from the errors
of documents and settings, which come with a message for the user.
-/

namespace JunctionReplay

/-- Why an operation has no result. -/
inductive Fault where
  /-- A signal state with more places than can be addressed. -/
  | stateTooLong
  /-- A place that lies outside of the signal state in which it is to be marked. -/
  | placeOutsideState
  /-- A window of more timings than can be addressed. -/
  | windowTooLarge
  /-- A range of speeds whose ends are not in order. -/
  | emptySpeedRange
  deriving DecidableEq, Repr

/-- Outcomes can be compared where their values and their faults can. -/
instance Fault.decidableEqOutcome {ε α : Type} [DecidableEq ε] [DecidableEq α] :
    DecidableEq (Except ε α)
  | .ok first, .ok second => decidable_of_iff (first = second) ⟨congrArg _, Except.ok.inj⟩
  | .error first, .error second =>
    decidable_of_iff (first = second) ⟨congrArg _, Except.error.inj⟩
  | .ok _, .error _ | .error _, .ok _ => isFalse nofun

end JunctionReplay
