import JunctionReplay.Fault
import JunctionReplay.Payload.Read

/-!
# Handing over a store

A loader hands the store that it loads to a subscriber through a slot that both of them reach.
Either may go away at any time: a loader that goes away without a result leaves the error
`abandoned`, and what a loader writes for a subscriber that has gone is lost.

A hand-over takes two steps.  The loader first makes sure that the subscriber is there, and then
writes; the subscriber may do anything in between.  In the end the loader goes away, which has no
effect on the slot once a result has been handed over.

`Exchange.step` gives the single steps of both sides, from which any interleaving is made up, and
`deliver`, `abandon` and `load` the undisturbed sequences of the loader's steps.
-/

namespace JunctionReplay

/-- What the slot holds. -/
inductive Slot (σ : Type) where
  | loading
  | ready (store : σ)
  | failed (error : PayloadError)
  deriving Repr

/-- The result of loading. -/
abbrev Loaded (σ : Type) := Except PayloadError σ

/-- What a result leaves in the slot. -/
def Slot.ofLoaded {σ : Type} : Loaded σ → Slot σ
  | .ok store => .ready store
  | .error error => .failed error

/-- Where the loader stands. -/
inductive LoaderStage (σ : Type) where
  /-- It holds its end of the slot. -/
  | holding
  /-- It has made sure of the subscriber and is about to write. -/
  | writing (result : Loaded σ)
  /-- It has gone away. -/
  | gone
  deriving Repr

/-- The slot with the two sides that reach it. -/
structure Exchange (σ : Type) where
  slot : Slot σ
  /-- Whether the subscriber is there. -/
  isSubscribed : Bool
  /-- Whether the loader has set out to hand over a result. -/
  isDelivered : Bool
  loader : LoaderStage σ
  deriving Repr

namespace Exchange

variable {σ : Type}

/-- A slot to which a subscriber waits for its loader. -/
def start : Exchange σ := ⟨.loading, true, false, .holding⟩

/-! ## The subscriber -/

/-- Whether the result is still to come. -/
def isLoading (exchange : Exchange σ) : Bool :=
  match exchange.slot with
  | .loading => true
  | _ => false

/-- The store, once it is there. -/
def store? (exchange : Exchange σ) : Option σ :=
  match exchange.slot with
  | .ready store => some store
  | _ => none

/-- The result, once it is there.  A store stays in the slot, an error is taken out of it. -/
def take (exchange : Exchange σ) : Exchange σ × Option (Loaded σ) :=
  match exchange.slot with
  | .loading => (exchange, none)
  | .ready store => (exchange, some (.ok store))
  | .failed error => ({ exchange with slot := .loading }, some (.error error))

/-- The subscriber goes away. -/
def unsubscribe (exchange : Exchange σ) : Exchange σ :=
  { exchange with isSubscribed := false }

/-! ## The loader -/

/-- Whether the loader may still hand over a result. -/
def isWaiting (exchange : Exchange σ) : Bool :=
  match exchange.loader with
  | .holding => !exchange.isDelivered
  | _ => false

/-- The loader makes sure of the subscriber for a result, which is lost without one.  It is told
whether the result will be written. -/
def reach (exchange : Exchange σ) (result : Loaded σ) : Exchange σ × Bool :=
  if exchange.isSubscribed then ({ exchange with loader := .writing result }, true)
  else (exchange, false)

/-- The loader sets out to hand over a result.  It is told whether the result will be written. -/
def prepare (exchange : Exchange σ) (result : Loaded σ) : Exchange σ × Bool :=
  { exchange with isDelivered := true }.reach result

/-- The loader writes the result for which it has made sure of the subscriber.  A result that is
written because the loader goes away is the last that it does. -/
def write (exchange : Exchange σ) : Exchange σ :=
  match exchange.loader with
  | .writing result =>
    { exchange with
      slot := .ofLoaded result
      loader := if exchange.isDelivered then .holding else .gone }
  | _ => exchange

/-- The loader goes away.  If it has not handed over anything, it sets out to write that the
loading was abandoned. -/
def leave (exchange : Exchange σ) : Exchange σ :=
  if exchange.isDelivered then { exchange with loader := .gone }
  else
    let (reached, isWritten) := exchange.reach (.error .abandoned)
    if isWritten then reached else { reached with loader := .gone }

/-- The loader hands over a result and goes away.  It is told whether the subscriber was there. -/
def deliver (exchange : Exchange σ) (result : Loaded σ) : Exchange σ × Bool :=
  if exchange.isWaiting then
    let (prepared, isWritten) := exchange.prepare result
    (prepared.write.leave, isWritten)
  else (exchange, false)

/-- The loader goes away without a result. -/
def abandon (exchange : Exchange σ) : Exchange σ :=
  if exchange.isWaiting then exchange.leave.write else exchange

/-- The loader loads and hands over the result, unless the subscriber has gone.  Where loading
breaks off without a result, the loader goes away. -/
def load (exchange : Exchange σ) (loading : Except Fault (Loaded σ)) :
    Exchange σ × Except Fault Bool :=
  if exchange.isSubscribed then
    match loading with
    | .ok result =>
      let (delivered, isWritten) := exchange.deliver result
      (delivered, .ok isWritten)
    | .error fault => (exchange.abandon, .error fault)
  else (exchange.abandon, .ok false)

/-! ## Single steps -/

/-- A single step of one of the two sides. -/
inductive Step (σ : Type) where
  | askLoading
  | askStore
  | take
  | unsubscribe
  | askSubscribed
  | prepare (result : Loaded σ)
  | write
  | leave
  deriving Repr

/-- What a step is answered, or what it brings about. -/
inductive Answer (σ : Type) where
  | nothing
  | truth (value : Bool)
  | store (store : Option σ)
  | taken (result : Option (Loaded σ))
  | written (result : Loaded σ)
  deriving Repr

/-- What a step leaves, and what it is answered.  There is no step of a side that has gone, and
none that the loader is not ready for. -/
def step (exchange : Exchange σ) : Step σ → Option (Exchange σ × Answer σ)
  | .askLoading =>
    if exchange.isSubscribed then some (exchange, .truth exchange.isLoading) else none
  | .askStore => if exchange.isSubscribed then some (exchange, .store exchange.store?) else none
  | .take =>
    if exchange.isSubscribed then some (exchange.take.1, .taken exchange.take.2) else none
  | .unsubscribe =>
    if exchange.isSubscribed then some (exchange.unsubscribe, .nothing) else none
  | .askSubscribed =>
    if exchange.isWaiting then some (exchange, .truth exchange.isSubscribed) else none
  | .prepare result =>
    if exchange.isWaiting then
      some ((exchange.prepare result).1, .truth (exchange.prepare result).2)
    else none
  | .write =>
    match exchange.loader with
    | .writing result => some (exchange.write, .written result)
    | _ => none
  | .leave =>
    match exchange.loader with
    | .holding => some (exchange.leave, .nothing)
    | _ => none

end Exchange

end JunctionReplay
