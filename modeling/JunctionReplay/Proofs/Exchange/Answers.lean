import JunctionReplay.Proofs.Exchange.Runs

/-!
# Answers after the write

A loader that has written, or that has gone away, never writes again.  From then on the slot
changes only when the subscriber takes an error out of it, so all answers follow from the result
that was written.

## Main Statements

* `Exchange.IsSpent` — the loader has nothing left to write; kept by every step.
* `Exchange.answersWith_of_runs` — the answers after a write follow from the result.
* `Exchange.writing_or_written` — what a loader is about to write is written in the end.
-/

namespace JunctionReplay.Exchange

variable {σ : Type}

/-! ## After the write -/

/-- The loader has nothing left to write. -/
def IsSpent (exchange : Exchange σ) : Prop :=
  exchange.loader = .gone ∨ (exchange.loader = .holding ∧ exchange.isDelivered = true)

/-- What the subscriber is answered once a result has been written: a store again and again, an
error once. -/
def AnswersWith : Loaded σ → History σ → Prop
  | .ok store, late =>
    (∀ taken ∈ takenIn late, taken = some (.ok store)) ∧ ∀ shown ∈ shownIn late, shown = some store
  | .error error, late =>
    (takenIn late = [] ∨
      ∃ rest, takenIn late = some (.error error) :: rest ∧ ∀ taken ∈ rest, taken = none) ∧
      ∀ shown ∈ shownIn late, shown = none

section Spent

variable {before after : Exchange σ} {late : History σ}

theorem isSpent_write {result : Loaded σ} (writing : before.loader = .writing result) :
    before.write.IsSpent ∧ before.write.slot = .ofLoaded result := by
  rw [Exchange.write, writing]
  cases delivered : before.isDelivered with
  | true => exact ⟨Or.inr ⟨rfl, rfl⟩, rfl⟩
  | false => exact ⟨Or.inl rfl, rfl⟩

theorem IsSpent.not_waiting (spent : before.IsSpent) : before.isWaiting ≠ true := by
  intro waiting
  obtain ⟨holding, notDelivered⟩ := isWaiting_iff.mp waiting
  rcases spent with gone | ⟨-, delivered⟩
  · rw [gone] at holding
    cases holding
  · rw [delivered] at notDelivered
    cases notDelivered

theorem IsSpent.not_writing (spent : before.IsSpent) (result : Loaded σ) :
    before.loader ≠ .writing result := by
  intro writing
  rcases spent with gone | ⟨holding, -⟩
  · rw [gone] at writing
    cases writing
  · rw [holding] at writing
    cases writing

/-- In an exchange that is spent nothing is written, only taking changes the slot, and the stores
that are shown are read off the slot. -/
theorem IsSpent.moves {step : Step σ} {answer : Answer σ} (spent : before.IsSpent)
    (moves : before.Moves step after answer) :
    after.IsSpent ∧
      writtenIn [(step, answer)] = [] ∧
        ((step = .take ∧ after.slot = before.take.1.slot ∧ answer = .taken before.take.2) ∨
          (after.slot = before.slot ∧ takenIn [(step, answer)] = [] ∧
            ∀ shown ∈ shownIn [(step, answer)], shown = before.store?)) := by
  cases moves with
  | askLoading => exact ⟨spent, rfl, Or.inr ⟨rfl, rfl, by simp [shownIn]⟩⟩
  | askStore => exact ⟨spent, rfl, Or.inr ⟨rfl, rfl, by simp [shownIn]⟩⟩
  | take =>
      obtain ⟨slot, taken⟩ := take_eq before
      refine ⟨?_, rfl, Or.inl ⟨rfl, rfl, rfl⟩⟩
      rw [taken]
      exact spent
  | unsubscribe => exact ⟨spent, rfl, Or.inr ⟨rfl, rfl, by simp [shownIn]⟩⟩
  | askSubscribed waiting => exact absurd waiting spent.not_waiting
  | prepare result waiting => exact absurd waiting spent.not_waiting
  | write result writing => exact absurd writing (spent.not_writing result)
  | leave holding =>
      -- What is left of the loader has delivered, so that it goes away without a trace.
      rcases spent with gone | ⟨-, delivered⟩
      · rw [gone] at holding
        cases holding
      · rw [leave_of_delivered delivered]
        exact ⟨Or.inl rfl, rfl, Or.inr ⟨rfl, rfl, by simp [shownIn]⟩⟩

theorem writtenIn_cons (event : Step σ × Answer σ) (rest : History σ) :
    writtenIn (event :: rest) = writtenIn [event] ++ writtenIn rest :=
  writtenIn_append [event] rest

theorem takenIn_cons (event : Step σ × Answer σ) (rest : History σ) :
    takenIn (event :: rest) = takenIn [event] ++ takenIn rest :=
  takenIn_append [event] rest

theorem shownIn_cons (event : Step σ × Answer σ) (rest : History σ) :
    shownIn (event :: rest) = shownIn [event] ++ shownIn rest :=
  shownIn_append [event] rest

/-- Nothing is written once the exchange is spent. -/
theorem IsSpent.writtenIn_eq_nil (spent : before.IsSpent) (runs : before.Runs late after) :
    writtenIn late = [] := by
  induction late generalizing before with
  | nil => rfl
  | cons event rest ih =>
      obtain ⟨next, step, runs⟩ := runs
      obtain ⟨nextSpent, noneWritten, -⟩ := spent.moves (step_eq_some_iff.mp step)
      rw [writtenIn_cons, noneWritten, ih nextSpent runs]
      rfl

/-- What the loader is about to write stays so until it is written. -/
theorem writing_or_written {result : Loaded σ} (writing : before.loader = .writing result)
    (runs : before.Runs late after) :
    after.loader = .writing result ∨ result ∈ writtenIn late := by
  induction late generalizing before with
  | nil =>
      obtain rfl := runs
      exact Or.inl writing
  | cons event rest ih =>
      obtain ⟨step, answer⟩ := event
      obtain ⟨next, taken, runs⟩ := runs
      have busy : before.isWaiting ≠ true := by
        intro waiting
        have holding := (isWaiting_iff.mp waiting).1
        rw [writing] at holding
        cases holding
      have moves := step_eq_some_iff.mp taken
      rw [writtenIn_cons]
      have later (sameLoader : next.loader = before.loader) :
          after.loader = .writing result ∨
            result ∈ writtenIn [(step, answer)] ++ writtenIn rest :=
        (ih (sameLoader.trans writing) runs).imp_right (List.mem_append_right _)
      cases moves with
      | askLoading | askStore | unsubscribe => exact later rfl
      | take =>
          obtain ⟨slot, taken⟩ := take_eq before
          exact later (by rw [taken])
      | askSubscribed waiting | prepare _ waiting => exact absurd waiting busy
      | write written isWriting =>
          rw [writing] at isWriting
          cases isWriting
          exact Or.inr (List.mem_append_left _ List.mem_cons_self)
      | leave holding =>
          rw [writing] at holding
          cases holding

/-- What is shown is read off the slot. -/
theorem store?_congr {other : Exchange σ} (same : other.slot = before.slot) :
    other.store? = before.store? := by
  rw [store?, store?, same]

/-- What is taken, and what it leaves in the slot, is read off the slot. -/
theorem take_congr {other : Exchange σ} (same : other.slot = before.slot) :
    other.take.1.slot = before.take.1.slot ∧ other.take.2 = before.take.2 := by
  unfold Exchange.take
  rw [same]
  cases slot : before.slot with
  | loading => exact ⟨same.trans rfl, rfl⟩
  | ready store => exact ⟨same.trans rfl, rfl⟩
  | failed error => exact ⟨rfl, rfl⟩

/-- A spent exchange whose slot outlasts being taken from gives the same answers for ever. -/
theorem IsSpent.answers_lasting (spent : before.IsSpent)
    (lasting : before.take.1.slot = before.slot) (runs : before.Runs late after) :
    (∀ taken ∈ takenIn late, taken = before.take.2) ∧
      ∀ shown ∈ shownIn late, shown = before.store? := by
  -- Whatever the first step is, it leaves the same slot, and with it the same answers.
  induction late generalizing before with
  | nil => simp [takenIn, shownIn]
  | cons event rest ih =>
      obtain ⟨next, step, runs⟩ := runs
      obtain ⟨nextSpent, -, kind⟩ := spent.moves (step_eq_some_iff.mp step)
      have same : next.slot = before.slot := by
        rcases kind with ⟨-, slot, -⟩ | ⟨slot, -, -⟩
        · exact slot.trans lasting
        · exact slot
      obtain ⟨sameLeft, sameTaken⟩ := take_congr same
      obtain ⟨restTaken, restShown⟩ := ih nextSpent (sameLeft.trans (lasting.trans same.symm)) runs
      rw [sameTaken] at restTaken
      rw [store?_congr same] at restShown
      rw [takenIn_cons, shownIn_cons]
      obtain ⟨step, answer⟩ := event
      rcases kind with ⟨rfl, -, rfl⟩ | ⟨-, noneTaken, shownNow⟩
      · refine ⟨fun taken member => ?_, restShown⟩
        rcases List.mem_cons.mp member with rfl | member
        · rfl
        · exact restTaken taken member
      · rw [noneTaken]
        refine ⟨restTaken, fun shown member => ?_⟩
        exact (List.mem_append.mp member).elim (shownNow shown) (restShown shown)

/-- An error in the slot of a spent exchange is taken once. -/
theorem IsSpent.answers_failed (spent : before.IsSpent) {error : PayloadError}
    (slot : before.slot = .failed error) (runs : before.Runs late after) :
    (takenIn late = [] ∨
      ∃ rest, takenIn late = some (.error error) :: rest ∧ ∀ taken ∈ rest, taken = none) ∧
      ∀ shown ∈ shownIn late, shown = none := by
  induction late generalizing before with
  | nil => simp [takenIn, shownIn]
  | cons event rest ih =>
      obtain ⟨next, step, runs⟩ := runs
      have shows : before.store? = none := by rw [store?, slot]
      have takes : before.take = ({ before with slot := .loading }, some (.error error)) := by
        rw [Exchange.take, slot]
      obtain ⟨nextSpent, -, kind⟩ := spent.moves (step_eq_some_iff.mp step)
      rw [takenIn_cons, shownIn_cons]
      obtain ⟨step, answer⟩ := event
      rcases kind with ⟨rfl, nextSlot, rfl⟩ | ⟨sameSlot, noneTaken, shownNow⟩
      · -- From here on nothing is in the slot any more.
        rw [takes] at nextSlot ⊢
        have nothing : next.take = (next, none) := take_of_loading nextSlot
        have absent : next.store? = none := by rw [store?, nextSlot]
        obtain ⟨restTaken, restShown⟩ := nextSpent.answers_lasting (by rw [nothing]) runs
        rw [nothing] at restTaken
        rw [absent] at restShown
        exact ⟨Or.inr ⟨takenIn rest, rfl, restTaken⟩, restShown⟩
      · obtain ⟨restTaken, restShown⟩ := ih nextSpent (sameSlot.trans slot) runs
        rw [noneTaken]
        refine ⟨restTaken, fun shown member => ?_⟩
        rcases List.mem_append.mp member with member | member
        · exact (shownNow shown member).trans shows
        · exact restShown shown member

/-- The answers after a write follow from the result that was written. -/
theorem answersWith_of_runs {result : Loaded σ} (spent : before.IsSpent)
    (slot : before.slot = .ofLoaded result) (runs : before.Runs late after) :
    AnswersWith result late := by
  cases result with
  | ok store =>
      have takes : before.take = (before, some (.ok store)) := by rw [Exchange.take, slot]; rfl
      have shows : before.store? = some store := by rw [store?, slot]; rfl
      have answers := spent.answers_lasting (by rw [takes]) runs
      rw [takes, shows] at answers
      exact answers
  | error error => exact spent.answers_failed slot runs

end Spent

end JunctionReplay.Exchange
