import JunctionReplay.CommandLine.Program
import JunctionReplay.Proofs.Exchange.Answers
import JunctionReplay.Proofs.Exchange.Progress

/-!
# Hand-overs

Whatever the order of the steps, a hand-over comes to one of three ends: the result that the loader
set out to hand over is written, or that it went away without one, or the subscriber was gone when
the loader made sure of it and nothing is written.  What the subscriber gets follows from that.

A program that waits for its loader does not interfere with it, so that it always finds the result
of loading in the slot.

## Main Statements

* `Exchange.HandsOver` — what is asked of a hand-over.
* `Exchange.handsOver_of_runs` — every run is one.
* `Exchange.take_of_gone` — a subscriber that waits for the loader to go away gets its result.
* `Exchange.runs_load` — loading undisturbed is one of the runs.
* `Exchange.readStore_eq` — reading a store never ends without a result or a fault.
* `Exchange.handOver_faithful` — all of it, with what it means for reading a store.
-/

namespace JunctionReplay.Exchange

variable {σ : Type}

/-- What is asked of a hand-over in which a history leads to an exchange. -/
structure HandsOver (history : History σ) (exchange : Exchange σ) : Prop where
  /-- There is at most one write. -/
  writesOnce : (writtenIn history).length ≤ 1
  /-- What is written is what the loader set out to hand over. -/
  writesPrepared : ∀ given reached, (.prepare given, .truth reached) ∈ history →
    ∀ written ∈ writtenIn history, written = given
  /-- Without anything to hand over, it is that the loader went away. -/
  writesAbandoned : preparedIn history = [] → ∀ written ∈ writtenIn history,
    written = .error .abandoned ∧ (.leave, .nothing) ∈ history
  /-- What reaches the subscriber is about to be written, or it is what was written. -/
  writesReached : ∀ given, (.prepare given, .truth true) ∈ history →
    exchange.loader = .writing given ∨ writtenIn history = [given]
  /-- A loader that goes away with nothing to hand over writes so, unless the subscriber has gone
  before. -/
  abandons : ∀ early late, history = early ++ (.leave, .nothing) :: late →
    preparedIn history = [] → exchange.loader = .gone →
      ((.unsubscribe, .nothing) ∈ early → writtenIn history = []) ∧
        ((.unsubscribe, .nothing) ∉ early → writtenIn history = [.error .abandoned])
  /-- The loader is told that it does not reach the subscriber exactly if that has gone. -/
  reaches : ∀ early late given reached,
    history = early ++ (.prepare given, .truth reached) :: late →
      (reached = false ↔ (.unsubscribe, .nothing) ∈ early)
  /-- What does not reach the subscriber is not written. -/
  refuses : ∀ given, (.prepare given, .truth false) ∈ history → writtenIn history = []
  /-- Without a write the subscriber gets nothing. -/
  pending : writtenIn history = [] → GetsNothing history
  /-- Before a write the subscriber gets nothing, and after it what follows from the result. -/
  answers : ∀ early late written, history = early ++ (.write, .written written) :: late →
    GetsNothing early ∧ AnswersWith written late

section Runs

variable {history early late : History σ} {exchange : Exchange σ}

/-- The loader is told whether the subscriber is still there. -/
theorem reached_eq_false_iff {given : Loaded σ} {reached : Bool}
    (runs : start.Runs (early ++ (.prepare given, .truth reached) :: late) exchange) :
    reached = false ↔ (.unsubscribe, .nothing) ∈ early := by
  obtain ⟨between, next, toBetween, moves, -⟩ := runs_append_cons.mp runs
  cases moves
  rw [prepare_snd]
  exact (tracks_of_runs toBetween).subscribed

/-- Whether a loader that goes away with nothing to hand over writes so depends on whether the
subscriber has gone before. -/
theorem writtenIn_of_leave (runs : start.Runs (early ++ (.leave, .nothing) :: late) exchange)
    (nothing : preparedIn (early ++ (.leave, .nothing) :: late) = [])
    (gone : exchange.loader = .gone) :
    ((.unsubscribe, .nothing) ∈ early →
        writtenIn (early ++ (.leave, .nothing) :: late) = []) ∧
      ((.unsubscribe, .nothing) ∉ early →
        writtenIn (early ++ (.leave, .nothing) :: late) = [.error .abandoned]) := by
  have final := (tracks_of_runs runs).progress
  rw [nothing] at final
  obtain ⟨between, next, toBetween, moves, fromNext⟩ := runs_append_cons.mp runs
  have tracks := tracks_of_runs toBetween
  have nothingEarly : preparedIn early = [] := by
    rw [preparedIn_append, List.append_eq_nil_iff] at nothing
    exact nothing.1
  cases moves with
  | leave holding =>
      have progress := tracks.progress
      rw [nothingEarly] at progress
      obtain ⟨notDelivered, written⟩ := progress.of_nothing_prepared
      have noneEarly : writtenIn early = [] := written.resolve_right fun left => left.2 holding
      -- What the loader finds when it goes away decides: from then on it is either spent or bound
      -- to write.
      rw [← tracks.subscribed]
      constructor
      · intro unsubscribed
        have spent : between.leave.IsSpent := by
          rw [leave_of_unsubscribed notDelivered unsubscribed]
          exact Or.inl rfl
        rw [writtenIn_append, writtenIn_cons, noneEarly, spent.writtenIn_eq_nil fromNext]
        rfl
      · intro subscribed
        have writing : between.leave.loader = .writing (.error .abandoned) := by
          rw [leave_of_subscribed notDelivered (Bool.of_not_eq_false subscribed)]
        rcases writing_or_written writing fromNext with stillWriting | isWritten
        · rw [gone] at stillWriting
          cases stillWriting
        · refine (final.of_nothing_prepared.2.resolve_left fun none => ?_).1
          rw [writtenIn_append, writtenIn_cons] at none
          simp only [List.append_eq_nil_iff] at none
          rw [none.2.2] at isWritten
          cases isWritten

/-- Around a write the subscriber gets nothing before it and what follows from the result after
it. -/
theorem answers_of_write {written : Loaded σ}
    (runs : start.Runs (early ++ (.write, .written written) :: late) exchange) :
    GetsNothing early ∧ AnswersWith written late := by
  obtain ⟨between, next, toBetween, moves, fromNext⟩ := runs_append_cons.mp runs
  have tracks := tracks_of_runs toBetween
  cases moves with
  | write _ writing =>
      have progress := tracks.progress
      rw [writing] at progress
      obtain ⟨spent, slot⟩ := isSpent_write writing
      exact ⟨(tracks.pending progress.of_writing.1).2, answersWith_of_runs spent slot fromNext⟩

/-- Every run is a hand-over. -/
theorem handsOver_of_runs (runs : start.Runs history exchange) : HandsOver history exchange := by
  have tracks := tracks_of_runs runs
  have progress := tracks.progress
  constructor
  · exact progress.length_written_le
  · intro given reached prepared written isWritten
    rw [← mem_preparedIn] at prepared
    cases reached with
    | true =>
        rcases progress.of_reached prepared with ⟨-, none⟩ | all
        · rw [none] at isWritten
          cases isWritten
        · rw [all] at isWritten
          exact List.mem_singleton.mp isWritten
    | false =>
        rw [progress.of_refused prepared] at isWritten
        cases isWritten
  · intro nothing written isWritten
    rw [nothing] at progress
    obtain ⟨notDelivered, none | ⟨all, notHolding⟩⟩ := progress.of_nothing_prepared
    · rw [none] at isWritten
      cases isWritten
    · rw [all] at isWritten
      exact ⟨List.mem_singleton.mp isWritten, tracks.left notDelivered notHolding⟩
  · intro given prepared
    exact (progress.of_reached (mem_preparedIn.mpr prepared)).imp_left And.left
  · rintro early late rfl nothing gone
    exact writtenIn_of_leave runs nothing gone
  · rintro early late given reached rfl
    exact reached_eq_false_iff runs
  · intro given prepared
    exact progress.of_refused (mem_preparedIn.mpr prepared)
  · intro none
    exact (tracks.pending none).2
  · rintro early late written rfl
    exact answers_of_write runs

/-- A subscriber that takes for the first time when the loader has gone away gets what the loader
set out to hand over. -/
theorem take_of_gone (runs : start.Runs history exchange) (subscribed : exchange.isSubscribed = true)
    (gone : exchange.loader = .gone) (untaken : takenIn history = []) {given : Loaded σ}
    (prepared : (.prepare given, .truth true) ∈ history) : exchange.take.2 = some given := by
  have written : writtenIn history = [given] := by
    refine ((handsOver_of_runs runs).writesReached given prepared).resolve_left fun writing => ?_
    rw [gone] at writing
    cases writing
  obtain ⟨early, late, rfl⟩ := exists_write_of_mem_writtenIn (written ▸ List.mem_cons_self)
  have takes : exchange.step .take = some (exchange.take.1, .taken exchange.take.2) :=
    if_pos subscribed
  -- The answer to one more step is among those after the write.
  have longer : start.Runs (early ++ (.write, .written given) :: (late ++
      [(.take, .taken exchange.take.2)])) exchange.take.1 := by
    rw [← List.cons_append, ← List.append_assoc]
    exact runs_append.mpr ⟨exchange, runs, exchange.take.1, takes, rfl⟩
  have answers := (answers_of_write longer).2
  have last : takenIn (late ++ [(.take, .taken exchange.take.2)]) = [exchange.take.2] := by
    rw [takenIn_append, takenIn_cons] at untaken
    simp only [List.append_eq_nil_iff] at untaken
    rw [takenIn_append, untaken.2.2]
    rfl
  cases given with
  | ok store =>
      refine answers.1 _ ?_
      rw [last]
      exact List.mem_cons_self
  | error error =>
      rcases answers.1 with none | ⟨rest, first, -⟩
      · rw [last] at none
        cases none
      · rw [last] at first
        exact (List.cons.inj first).1

end Runs

/-! ## A loader that is left to itself -/

/-- The steps of a loader that hands over a result undisturbed. -/
def deliverySteps (isSubscribed : Bool) (result : Loaded σ) : History σ :=
  (.prepare result, .truth isSubscribed) ::
    if isSubscribed then [(.write, .written result), (.leave, .nothing)] else [(.leave, .nothing)]

/-- The steps of a loader that goes away undisturbed. -/
def abandonmentSteps (isSubscribed : Bool) : History σ :=
  (.leave, .nothing) ::
    if isSubscribed then [(.write, .written (.error .abandoned))] else []

/-- The steps of a loader that loads undisturbed. -/
def loadingSteps (isSubscribed : Bool) (loading : Except Fault (Loaded σ)) : History σ :=
  (.askSubscribed, .truth isSubscribed) ::
    match isSubscribed, loading with
    | true, .ok result => deliverySteps true result
    | true, .error _ => abandonmentSteps true
    | false, _ => abandonmentSteps false

variable {exchange : Exchange σ}

/-- Handing over a result is made up of single steps. -/
theorem runs_deliver (waiting : exchange.isWaiting = true) (result : Loaded σ) :
    exchange.Runs (deliverySteps exchange.isSubscribed result) (exchange.deliver result).1 := by
  obtain ⟨slot, isSubscribed, isDelivered, loader⟩ := exchange
  obtain ⟨rfl, rfl⟩ := isWaiting_iff.mp waiting
  cases isSubscribed with
  | true => exact ⟨_, rfl, _, rfl, _, rfl, rfl⟩
  | false => exact ⟨_, rfl, _, rfl, rfl⟩

/-- Going away without a result is made up of single steps. -/
theorem runs_abandon (waiting : exchange.isWaiting = true) :
    exchange.Runs (abandonmentSteps exchange.isSubscribed) exchange.abandon := by
  obtain ⟨slot, isSubscribed, isDelivered, loader⟩ := exchange
  obtain ⟨rfl, rfl⟩ := isWaiting_iff.mp waiting
  cases isSubscribed with
  | true => exact ⟨_, rfl, _, rfl, rfl⟩
  | false => exact ⟨_, rfl, rfl⟩

/-- Loading is made up of single steps. -/
theorem runs_load (waiting : exchange.isWaiting = true) (loading : Except Fault (Loaded σ)) :
    exchange.Runs (loadingSteps exchange.isSubscribed loading) (exchange.load loading).1 := by
  refine ⟨exchange, step_eq_some_iff.mpr (.askSubscribed waiting), ?_⟩
  cases subscribed : exchange.isSubscribed with
  | true =>
      have delivers := runs_deliver waiting
      have abandons := runs_abandon waiting
      rw [subscribed] at delivers abandons
      cases loading with
      | ok result =>
          rw [load, if_pos subscribed]
          exact delivers result
      | error fault =>
          rw [load, if_pos subscribed]
          exact abandons
  | false =>
      have abandons := runs_abandon waiting
      rw [subscribed] at abandons
      unfold load
      rw [if_neg (by simp [subscribed])]
      exact abandons

/-- A subscriber that waits for a loader gets what it loads. -/
theorem take_load (result : Loaded σ) : (start.load (.ok result)).1.take.2 = some result :=
  take_of_gone (runs_load rfl (.ok result)) rfl rfl rfl
    (List.mem_cons_of_mem _ List.mem_cons_self)

/-! ## Reading a store -/

section Reading

open CommandLine

/-- What reading a store ends with, by what loading comes to. -/
def loadingOutcome (path : String) : Except Fault (Loaded (Store Float)) → Telling (Store Float)
  | .error _ => throw ("Payload loader for " ++ path ++ " panicked")
  | .ok (.ok store) => pure store
  | .ok (.error error) => throw (loadFailure path error)

/-- Reading a store breaks off where loading does, and otherwise there is a result. -/
theorem readStore_eq (files : Files) (config : Config Float) (path : String) :
    let loaded := Payload.storeOfFile (files path) config.directions config.cycle
    readStore files config path = (do
      tell [loadingLine path]
      tell (loadLines path (files path) config.cycle loaded)
      loadingOutcome path loaded) := by
  unfold readStore
  cases Payload.storeOfFile (files path) config.directions config.cycle with
  | error fault => rfl
  | ok result =>
      have taken := take_load result
      have finished : (start.load (.ok result)).2 = .ok true := rfl
      dsimp only
      rw [finished, taken]
      cases result <;> rfl

/-- **A hand-over is faithful, and so is reading a store.**  Every run of the two sides is a
hand-over; a subscriber that first takes when the loader has gone away gets what was handed over;
and a program that reads a store waits for that, so that it always finds a result. -/
theorem handOver_faithful :
    (∀ {σ : Type} (history : History σ) (exchange : Exchange σ),
      start.Runs history exchange →
        HandsOver history exchange ∧
          (exchange.isSubscribed = true → exchange.loader = .gone → takenIn history = [] →
            ∀ given, (.prepare given, .truth true) ∈ history →
              exchange.take.2 = some given)) ∧
      ∀ (files : Files) (config : Config Float) (path : String),
        let loaded := Payload.storeOfFile (files path) config.directions config.cycle
        readStore files config path = (do
          tell [loadingLine path]
          tell (loadLines path (files path) config.cycle loaded)
          loadingOutcome path loaded) := by
  refine ⟨fun history exchange runs => ⟨handsOver_of_runs runs, ?_⟩, readStore_eq⟩
  intro subscribed gone untaken given prepared
  exact take_of_gone runs subscribed gone untaken prepared

/-- An error that is written between two questions for it is taken once. -/
theorem handOver_faithful_failed_once :
    let failed : Loaded Nat := .error (.unreadable .missing)
    let early : History Nat := [(.take, .taken none), (.prepare failed, .truth true)]
    let late : History Nat :=
      [(.take, .taken (some failed)), (.leave, .nothing), (.take, .taken none)]
    let exchange : Exchange Nat := ⟨.loading, true, true, .gone⟩
    start.Runs (early ++ (.write, .written failed) :: late) exchange ∧
      writtenIn (early ++ (.write, .written failed) :: late) = [failed] ∧
      AnswersWith failed late := by
  intro failed early late exchange
  have runs : start.Runs (early ++ (.write, .written failed) :: late) exchange :=
    ⟨_, rfl, _, rfl, _, rfl, _, rfl, _, rfl, _, rfl, rfl⟩
  have faithful := (handOver_faithful.1 _ exchange runs).1
  have reached : (Step.prepare failed, Answer.truth true) ∈
      early ++ (.write, .written failed) :: late :=
    List.mem_append_left _ (List.mem_cons_of_mem _ List.mem_cons_self)
  refine ⟨runs, (faithful.writesReached failed reached).resolve_left ?_,
    (faithful.answers early late failed rfl).2⟩
  exact fun writing => nomatch writing

end Reading

end JunctionReplay.Exchange
