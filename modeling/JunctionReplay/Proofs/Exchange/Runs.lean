import JunctionReplay.Exchange

/-!
# Interleavings of a hand-over

A run is any sequence of steps of the two sides of an exchange, each with its answer.  Every
statement about runs goes back to what the single steps do, which `Moves` lists once.

## Main Statements

* `Exchange.Runs` — a history of steps leads from one exchange to another.
* `Exchange.Moves` — what each step does; `Exchange.step_eq_some_iff` reads it off `step`.
* `Exchange.preparedIn`, `Exchange.writtenIn`, `Exchange.takenIn`, `Exchange.shownIn` — what a
  history holds of the loader's and of the subscriber's doings.
-/

namespace JunctionReplay.Exchange

variable {σ : Type}

/-! ## Runs -/

/-- The steps of both sides in their order, each with its answer. -/
abbrev History (σ : Type) := List (Step σ × Answer σ)

/-- A history leads from one exchange to another. -/
def Runs (before : Exchange σ) : History σ → Exchange σ → Prop
  | [], after => before = after
  | event :: rest, after =>
    ∃ next, before.step event.1 = some (next, event.2) ∧ Runs next rest after

/-- A run through two histories passes an exchange between them. -/
theorem runs_append {before after : Exchange σ} {early late : History σ} :
    before.Runs (early ++ late) after ↔
      ∃ between, before.Runs early between ∧ between.Runs late after := by
  induction early generalizing before with
  | nil => simp [Runs]
  | cons event rest ih =>
      simp only [List.cons_append, Runs, ih]
      constructor
      · rintro ⟨next, taken, between, toBetween, fromBetween⟩
        exact ⟨between, ⟨next, taken, toBetween⟩, fromBetween⟩
      · rintro ⟨between, ⟨next, taken, toBetween⟩, fromBetween⟩
        exact ⟨next, taken, between, toBetween, fromBetween⟩

/-! ## Single steps -/

/-- What a step does to an exchange, and how it is answered. -/
inductive Moves (before : Exchange σ) : Step σ → Exchange σ → Answer σ → Prop where
  | askLoading (subscribed : before.isSubscribed = true) :
      Moves before .askLoading before (.truth before.isLoading)
  | askStore (subscribed : before.isSubscribed = true) :
      Moves before .askStore before (.store before.store?)
  | take (subscribed : before.isSubscribed = true) :
      Moves before .take before.take.1 (.taken before.take.2)
  | unsubscribe (subscribed : before.isSubscribed = true) :
      Moves before .unsubscribe before.unsubscribe .nothing
  | askSubscribed (waiting : before.isWaiting = true) :
      Moves before .askSubscribed before (.truth before.isSubscribed)
  | prepare (result : Loaded σ) (waiting : before.isWaiting = true) :
      Moves before (.prepare result) (before.prepare result).1
        (.truth (before.prepare result).2)
  | write (result : Loaded σ) (writing : before.loader = .writing result) :
      Moves before .write before.write (.written result)
  | leave (holding : before.loader = .holding) :
      Moves before .leave before.leave .nothing

/-- The steps that can be taken are the moves. -/
theorem step_eq_some_iff {before after : Exchange σ} {step : Step σ} {answer : Answer σ} :
    before.step step = some (after, answer) ↔ before.Moves step after answer := by
  constructor
  · intro taken
    cases step with
    | askLoading | askStore | take | unsubscribe | askSubscribed | prepare =>
        rw [Exchange.step] at taken
        split at taken
        next ready =>
          cases taken
          constructor
          exact ready
        next => cases taken
    | write =>
        rw [Exchange.step] at taken
        split at taken
        next result writing =>
          cases taken
          exact .write result writing
        next => cases taken
    | leave =>
        rw [Exchange.step] at taken
        split at taken
        next holding =>
          cases taken
          exact .leave holding
        next => cases taken
  · intro moves
    cases moves with
    | askLoading ready | askStore ready | take ready | unsubscribe ready | askSubscribed ready
      | prepare _ ready =>
        rw [Exchange.step]
        exact if_pos ready
    | write result writing =>
        rw [Exchange.step, writing]
    | leave holding =>
        rw [Exchange.step, holding]

/-- A run that takes a step somewhere makes a move there. -/
theorem runs_append_cons {before after : Exchange σ} {early late : History σ} {step : Step σ}
    {answer : Answer σ} :
    before.Runs (early ++ (step, answer) :: late) after ↔
      ∃ between next, before.Runs early between ∧ between.Moves step next answer ∧
        next.Runs late after := by
  simp only [runs_append, Runs, step_eq_some_iff]
  constructor
  · rintro ⟨between, toBetween, next, moves, fromNext⟩
    exact ⟨between, next, toBetween, moves, fromNext⟩
  · rintro ⟨between, next, toBetween, moves, fromNext⟩
    exact ⟨between, toBetween, next, moves, fromNext⟩

/-! ## What the operations do -/

section Operations

variable {exchange : Exchange σ}

theorem isWaiting_iff :
    exchange.isWaiting = true ↔ exchange.loader = .holding ∧ exchange.isDelivered = false := by
  unfold isWaiting
  cases exchange.loader with
  | holding => simp
  | writing result => simp
  | gone => simp

/-- Taking changes the slot alone. -/
theorem take_eq (exchange : Exchange σ) :
    ∃ slot, exchange.take.1 = { exchange with slot := slot } := by
  unfold Exchange.take
  cases exchange with
  | mk slot isSubscribed isDelivered loader => cases slot <;> exact ⟨_, rfl⟩

/-- Nothing is taken from a slot in which nothing is. -/
theorem take_of_loading (slot : exchange.slot = .loading) : exchange.take = (exchange, none) := by
  rw [Exchange.take, slot]

/-- A loader that finds the subscriber is about to write its result. -/
theorem prepare_of_subscribed (subscribed : exchange.isSubscribed = true) (result : Loaded σ) :
    exchange.prepare result =
      ({ exchange with isDelivered := true, loader := .writing result }, true) := by
  simp [prepare, reach, subscribed]

/-- A loader that does not find the subscriber keeps its result to itself. -/
theorem prepare_of_unsubscribed (unsubscribed : exchange.isSubscribed = false)
    (result : Loaded σ) :
    exchange.prepare result = ({ exchange with isDelivered := true }, false) := by
  simp [prepare, reach, unsubscribed]

/-- Setting out to hand over a result tells whether the subscriber is there. -/
theorem prepare_snd (exchange : Exchange σ) (result : Loaded σ) :
    (exchange.prepare result).2 = exchange.isSubscribed := by
  cases subscribed : exchange.isSubscribed with
  | true => rw [prepare_of_subscribed subscribed]
  | false => rw [prepare_of_unsubscribed subscribed]

/-- A loader that has delivered goes away without a trace. -/
theorem leave_of_delivered (delivered : exchange.isDelivered = true) :
    exchange.leave = { exchange with loader := .gone } := by
  simp [leave, delivered]

/-- A loader that goes away without a result is about to write so if it finds the subscriber. -/
theorem leave_of_subscribed (notDelivered : exchange.isDelivered = false)
    (subscribed : exchange.isSubscribed = true) :
    exchange.leave = { exchange with loader := .writing (.error .abandoned) } := by
  simp [leave, reach, notDelivered, subscribed]

/-- A loader that goes away without a result and does not find the subscriber is gone. -/
theorem leave_of_unsubscribed (notDelivered : exchange.isDelivered = false)
    (unsubscribed : exchange.isSubscribed = false) :
    exchange.leave = { exchange with loader := .gone } := by
  simp [leave, reach, notDelivered, unsubscribed]

end Operations

/-! ## What a history holds -/

/-- The results that the loader set out to hand over, each with whether it reached the
subscriber. -/
def preparedIn (history : History σ) : List (Loaded σ × Bool) :=
  history.filterMap fun event =>
    match event with
    | (.prepare result, .truth reached) => some (result, reached)
    | _ => none

/-- The results that were written. -/
def writtenIn (history : History σ) : List (Loaded σ) :=
  history.filterMap fun event =>
    match event with
    | (.write, .written result) => some result
    | _ => none

/-- What the subscriber took. -/
def takenIn (history : History σ) : List (Option (Loaded σ)) :=
  history.filterMap fun event =>
    match event with
    | (.take, .taken result) => some result
    | _ => none

/-- The stores that the subscriber was shown. -/
def shownIn (history : History σ) : List (Option σ) :=
  history.filterMap fun event =>
    match event with
    | (.askStore, .store store) => some store
    | _ => none

/-- The subscriber takes nothing and is shown nothing. -/
def GetsNothing (history : History σ) : Prop :=
  (∀ taken ∈ takenIn history, taken = none) ∧ ∀ shown ∈ shownIn history, shown = none

@[simp] theorem preparedIn_append (early late : History σ) :
    preparedIn (early ++ late) = preparedIn early ++ preparedIn late :=
  List.filterMap_append

@[simp] theorem writtenIn_append (early late : History σ) :
    writtenIn (early ++ late) = writtenIn early ++ writtenIn late :=
  List.filterMap_append

@[simp] theorem takenIn_append (early late : History σ) :
    takenIn (early ++ late) = takenIn early ++ takenIn late :=
  List.filterMap_append

@[simp] theorem shownIn_append (early late : History σ) :
    shownIn (early ++ late) = shownIn early ++ shownIn late :=
  List.filterMap_append

/-- The subscriber gets nothing in two histories if it gets nothing in either. -/
theorem GetsNothing.append {early late : History σ} (nothingEarly : GetsNothing early)
    (nothingLate : GetsNothing late) : GetsNothing (early ++ late) := by
  constructor
  · intro taken member
    rw [takenIn_append] at member
    exact (List.mem_append.mp member).elim (nothingEarly.1 taken) (nothingLate.1 taken)
  · intro shown member
    rw [shownIn_append] at member
    exact (List.mem_append.mp member).elim (nothingEarly.2 shown) (nothingLate.2 shown)

/-- The subscriber gets nothing from a step that is none of its questions for a result. -/
theorem getsNothing_of_eq_nil {history : History σ} (noneTaken : takenIn history = [])
    (noneShown : shownIn history = []) : GetsNothing history := by
  rw [GetsNothing, noneTaken, noneShown]
  exact ⟨by simp, by simp⟩

theorem mem_preparedIn {history : History σ} {result : Loaded σ} {reached : Bool} :
    (result, reached) ∈ preparedIn history ↔ (.prepare result, .truth reached) ∈ history := by
  rw [preparedIn, List.mem_filterMap]
  constructor
  · rintro ⟨event, member, isPrepared⟩
    split at isPrepared
    · cases isPrepared
      exact member
    · cases isPrepared
  · intro member
    exact ⟨_, member, rfl⟩

theorem exists_write_of_mem_writtenIn {history : History σ} {result : Loaded σ}
    (written : result ∈ writtenIn history) :
    ∃ early late, history = early ++ (.write, .written result) :: late := by
  obtain ⟨event, member, isWritten⟩ := List.mem_filterMap.mp written
  split at isWritten
  · cases isWritten
    exact List.append_of_mem member
  · cases isWritten

end JunctionReplay.Exchange
