import JunctionReplay.Session

/-!
# Comparisons

A baseline simulation and, if there is one, its optimized twin, replayed side by side.  Each has
a session of its own, and neither sees anything of the other.
-/

namespace JunctionReplay

/-- One or two sessions side by side. -/
structure Comparison (α : Type) where
  baseline : Session α
  optimized : Option (Session α)
  deriving DecidableEq, Repr

/-- The frames of one or two sessions. -/
structure ComparisonFrame (α : Type) where
  baseline : Frame α
  optimized : Option (Frame α)
  deriving DecidableEq, Repr

/-- How much larger the figures of one simulation are than those of another. -/
structure ResultsDelta (α : Type) where
  averageSpeed : α
  averageTravelTime : α
  averageWaitingTime : α
  deriving DecidableEq, Repr

/-- The figures of `optimized` less those of `baseline`. -/
def ResultsDelta.between {α : Type} [Scalar α] (baseline optimized : Results α) :
    ResultsDelta α where
  averageSpeed := optimized.averageSpeed - baseline.averageSpeed
  averageTravelTime := optimized.averageTravelTime - baseline.averageTravelTime
  averageWaitingTime := optimized.averageWaitingTime - baseline.averageWaitingTime

/-- Applies what may fail to a value that may be missing. -/
def ifPresent {β γ : Type} (value : Option β) (action : β → Except Fault γ) :
    Except Fault (Option γ) :=
  match value with
  | some present => (action present).map some
  | none => .ok none

namespace Comparison

variable {α : Type} [Scalar α]

/-- The sessions of a store and of an optimized one, if there is one. -/
def start (baseline : Store α) (optimized : Option (Store α)) (config : Config α) :
    Except Fault (Comparison α) := do
  let baselineSession ← Session.start baseline config
  let optimizedSession ← ifPresent optimized fun store => Session.start store config
  .ok ⟨baselineSession, optimizedSession⟩

/-- Whether there are two sessions. -/
def isComparing (view : Comparison α) : Bool := view.optimized.isSome

/-- Sets the speed of every session. -/
def setSpeed (view : Comparison α) (speed : α) : Except Fault (Comparison α) := do
  let baseline ← view.baseline.setSpeed speed
  let optimized ← ifPresent view.optimized fun session => session.setSpeed speed
  .ok ⟨baseline, optimized⟩

/-- The end of the last trajectory of any session. -/
def maxEndTime (view : Comparison α) : α :=
  match view.optimized with
  | some optimized => Scalar.larger view.baseline.store.maxEndTime optimized.store.maxEndTime
  | none => view.baseline.store.maxEndTime

/-- The difference of the reported figures, where both simulations report them. -/
def resultsDelta? (view : Comparison α) : Option (ResultsDelta α) := do
  let baseline ← view.baseline.store.results
  let optimized ← (← view.optimized).store.results
  some (ResultsDelta.between baseline optimized)

variable [Planar α]

/-- Advances every session by an amount of real time and shows the frames that they come to. -/
def tick (view : Comparison α) (delta : α) : Comparison α × ComparisonFrame α :=
  let baseline := view.baseline.advance delta
  let optimized := view.optimized.map fun session => session.advance delta
  (⟨baseline.afterFrame, optimized.map Session.afterFrame⟩,
    ⟨baseline.frame, optimized.map Session.frame⟩)

/-- What can be done with a comparison. -/
inductive Op (α : Type) where
  | setSpeed (speed : α)
  | tick (delta : α)
  /-- An operation on the session of the baseline alone. -/
  | onBaseline (op : Session.Op α)
  /-- An operation on the session of the optimized simulation alone, if there is one. -/
  | onOptimized (op : Session.Op α)
  deriving DecidableEq, Repr

/-- The frames that an operation on a comparison shows: those of the baseline, and those of the
optimized simulation. -/
structure Shown (α : Type) where
  baseline : Option (Frame α)
  optimized : Option (Frame α)
  deriving DecidableEq, Repr

/-- What one operation leaves and shows. -/
def step (view : Comparison α) : Op α → Except Fault (Comparison α × Shown α)
  | .setSpeed speed => (view.setSpeed speed).map fun changed => (changed, ⟨none, none⟩)
  | .tick delta =>
    let (next, frames) := view.tick delta
    .ok (next, ⟨some frames.baseline, frames.optimized⟩)
  | .onBaseline op =>
    (view.baseline.step op).map fun next => (⟨next.1, view.optimized⟩, ⟨next.2, none⟩)
  | .onOptimized op =>
    (ifPresent view.optimized fun session => session.step op).map fun next =>
      (⟨view.baseline, next.map Prod.fst⟩, ⟨none, next.bind Prod.snd⟩)

/-- What a sequence of operations leaves, and what each of them shows. -/
def run (view : Comparison α) : List (Op α) → Except Fault (Comparison α × List (Shown α))
  | [] => .ok (view, [])
  | op :: rest => do
    let (next, shown) ← view.step op
    let (last, later) ← next.run rest
    .ok (last, shown :: later)

end Comparison

end JunctionReplay
