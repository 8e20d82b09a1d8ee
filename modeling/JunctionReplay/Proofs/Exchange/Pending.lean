import JunctionReplay.Proofs.Exchange.Answers
import JunctionReplay.Proofs.Exchange.Progress

/-!
# Loads that are over

A slot is empty before the loader writes, and empty again once an error has been taken out of it.
A subscriber that asks whether its result is still to come is only told whether the slot is empty,
so the two are the same to it: after an error was taken, a load that is over is reported as one that
is still going on.

Nothing else brings that about.  A store stays in the slot, an error stays there until it is taken,
and a loader that is done with its end does not touch the slot any more.  So the question is
answered wrongly exactly after an error was taken, and what the slot holds at the end of a run
depends on the result that was written and on whether anything was taken since.

## Main Statements

* `Exchange.exists_written_of_spent` — a loader that is done has written, if the subscriber is
  there.
* `Exchange.isLoading_iff_of_runs` — when a slot that was written to is empty again.
* `Exchange.reported_pending_iff` — when a load that is over is reported as going on.
* `Exchange.reported_pending_after_failure` — a run in which that happens.
-/

namespace JunctionReplay.Exchange

variable {σ : Type}

/-! ## What is left in the slot -/

section Slot

variable {before after : Exchange σ} {late : History σ} {result : Loaded σ}

/-- What outlasts being taken outlasts a run of a spent exchange. -/
theorem IsSpent.slot_lasting (spent : before.IsSpent)
    (lasting : before.take.1.slot = before.slot) (runs : before.Runs late after) :
    after.slot = before.slot := by
  induction late generalizing before with
  | nil =>
      obtain rfl := runs
      rfl
  | cons event rest ih =>
      obtain ⟨next, step, runs⟩ := runs
      obtain ⟨nextSpent, -, kind⟩ := spent.moves (step_eq_some_iff.mp step)
      have same : next.slot = before.slot := by
        rcases kind with ⟨-, slot, -⟩ | ⟨slot, -, -⟩
        · exact slot.trans lasting
        · exact slot
      have lastingOn : next.take.1.slot = next.slot :=
        (take_congr same).1.trans (lasting.trans same.symm)
      exact (ih nextSpent lastingOn runs).trans same

/-- An error in the slot of a spent exchange is there until it is taken, and from then on nothing
is. -/
theorem IsSpent.slot_failed (spent : before.IsSpent) {error : PayloadError}
    (slot : before.slot = .failed error) (runs : before.Runs late after) :
    (after.slot = .failed error ∧ takenIn late = []) ∨
      (after.slot = .loading ∧ some (.error error) ∈ takenIn late) := by
  induction late generalizing before with
  | nil =>
      obtain rfl := runs
      exact Or.inl ⟨slot, rfl⟩
  | cons event rest ih =>
      obtain ⟨next, step, runs⟩ := runs
      obtain ⟨nextSpent, -, kind⟩ := spent.moves (step_eq_some_iff.mp step)
      rw [takenIn_cons]
      obtain ⟨step, answer⟩ := event
      rcases kind with ⟨rfl, nextSlot, rfl⟩ | ⟨sameSlot, noneTaken, -⟩
      · have takes : before.take = ({ before with slot := .loading }, some (.error error)) := by
          rw [Exchange.take, slot]
        rw [takes] at nextSlot ⊢
        -- An empty slot outlasts being taken from.
        have lasting : next.take.1.slot = next.slot := by rw [take_of_loading nextSlot]
        refine Or.inr ⟨(nextSpent.slot_lasting lasting runs).trans nextSlot, ?_⟩
        exact List.mem_append_left _ List.mem_cons_self
      · rw [noneTaken]
        exact ih nextSpent (sameSlot.trans slot) runs

theorem isLoading_eq_true_iff {exchange : Exchange σ} :
    exchange.isLoading = true ↔ exchange.slot = .loading := by
  unfold isLoading
  cases exchange.slot <;> simp

/-- A slot that was written to is empty again exactly if an error was written and has been taken. -/
theorem isLoading_iff_of_runs (spent : before.IsSpent) (slot : before.slot = .ofLoaded result)
    (runs : before.Runs late after) :
    after.isLoading = true ↔
      ∃ error, result = .error error ∧ some (.error error) ∈ takenIn late := by
  rw [isLoading_eq_true_iff]
  cases result with
  | ok store =>
      have takes : before.take = (before, some (.ok store)) := by rw [Exchange.take, slot]; rfl
      have stays : after.slot = .ready store :=
        (spent.slot_lasting (by rw [takes]) runs).trans slot
      simp [stays]
  | error error =>
      rcases spent.slot_failed slot runs with ⟨stays, untaken⟩ | ⟨empty, taken⟩
      · simp [stays, untaken]
      · simp [empty, taken]

end Slot

/-! ## Loaders that are done -/

/-- A loader that is done has written, unless it did not find the subscriber. -/
theorem Progress.exists_written {prepared : List (Loaded σ × Bool)} {written : List (Loaded σ)}
    {delivered : Bool} {loader : LoaderStage σ}
    (progress : Progress prepared written true delivered loader)
    (done : loader = .gone ∨ (loader = .holding ∧ delivered = true)) :
    ∃ result, written = [result] := by
  cases progress with
  | waiting | writing | abandoning => simp at done
  | written result | done result => exact ⟨result, rfl⟩
  | abandoned => exact ⟨.error .abandoned, rfl⟩

section Done

variable {early late : History σ} {used after : Exchange σ}

/-- A loader that has nothing left to write has written its result, if the subscriber is there. -/
theorem exists_written_of_spent (runs : start.Runs early used) (spent : used.IsSpent)
    (subscribed : used.isSubscribed = true) : ∃ result, writtenIn early = [result] := by
  have progress := (tracks_of_runs runs).progress
  rw [subscribed] at progress
  exact progress.exists_written spent

/-- Whether the slot is empty at the end of a run in which something was written. -/
theorem isLoading_iff_of_mem_writtenIn {result : Loaded σ} (runs : start.Runs early after)
    (written : result ∈ writtenIn early) :
    after.isLoading = true ↔
      ∃ error, result = .error error ∧ some (.error error) ∈ takenIn early := by
  obtain ⟨front, back, rfl⟩ := exists_write_of_mem_writtenIn written
  obtain ⟨between, next, toBetween, moves, fromNext⟩ := runs_append_cons.mp runs
  cases moves with
  | write _ writing =>
      obtain ⟨spent, slot⟩ := isSpent_write writing
      have tracks := tracks_of_runs toBetween
      have progress := tracks.progress
      rw [writing] at progress
      have nothing : GetsNothing front := (tracks.pending progress.of_writing.1).2
      rw [isLoading_iff_of_runs spent slot fromNext, takenIn_append, takenIn_cons]
      refine exists_congr fun error => and_congr_right fun _ => ?_
      constructor
      · intro taken
        exact List.mem_append_right _ (List.mem_append_right _ taken)
      · intro taken
        -- In front of the write only `none` was taken.
        rcases List.mem_append.mp taken with inFront | inBack
        · exact nomatch nothing.1 _ inFront
        · exact inBack

/-- **A load that is over is reported as going on exactly after its error was taken.**  Once the
loader has nothing left to write while the subscriber is there, one result has been written.  From
then on every question whether the result is still to come is answered by yes if that result is an
error and the subscriber has taken it, and by no otherwise; so for a store it is always no. -/
theorem reported_pending_iff (runs : start.Runs early used) (spent : used.IsSpent)
    (subscribed : used.isSubscribed = true) (goesOn : used.Runs late after) :
    ∃ result, writtenIn early = [result] ∧
      ∀ front back pending, late = front ++ (.askLoading, .truth pending) :: back →
        (pending = true ↔
          ∃ error, result = .error error ∧ some (.error error) ∈ takenIn (early ++ front)) := by
  obtain ⟨result, written⟩ := exists_written_of_spent runs spent subscribed
  refine ⟨result, written, ?_⟩
  rintro front back pending rfl
  obtain ⟨between, next, toBetween, moves, -⟩ := runs_append_cons.mp goesOn
  have wholeRuns : start.Runs (early ++ front) between :=
    runs_append.mpr ⟨used, runs, toBetween⟩
  have isWritten : result ∈ writtenIn (early ++ front) := by
    rw [writtenIn_append, written]
    exact List.mem_append_left _ List.mem_cons_self
  cases moves with
  | askLoading _ => exact isLoading_iff_of_mem_writtenIn wholeRuns isWritten

/-- An error that is asked for in vain before it is written, and taken between two questions. -/
theorem reported_pending_iff_missing_file :
    let failed : Loaded Nat := .error (.unreadable .missing)
    let early : History Nat :=
      [(.prepare failed, .truth true), (.take, .taken none), (.write, .written failed)]
    let late : History Nat :=
      [(.askLoading, .truth false), (.take, .taken (some failed)), (.leave, .nothing),
        (.askLoading, .truth true)]
    let used : Exchange Nat := ⟨.failed (.unreadable .missing), true, true, .holding⟩
    let after : Exchange Nat := ⟨.loading, true, true, .gone⟩
    start.Runs early used ∧ used.IsSpent ∧ used.isSubscribed = true ∧ used.Runs late after ∧
      ∃ result, writtenIn early = [result] ∧
        ∀ front back pending, late = front ++ (.askLoading, .truth pending) :: back →
          (pending = true ↔
            ∃ error, result = .error error ∧ some (.error error) ∈ takenIn (early ++ front)) := by
  intro failed early late used after
  have runs : start.Runs early used := ⟨_, rfl, _, rfl, _, rfl, rfl⟩
  have spent : used.IsSpent := Or.inr ⟨rfl, rfl⟩
  have goesOn : used.Runs late after := ⟨_, rfl, _, rfl, _, rfl, _, rfl, rfl⟩
  exact ⟨runs, spent, rfl, goesOn, reported_pending_iff runs spent rfl goesOn⟩

/-- **A load that is over and reported as going on.**  The loader goes away without a result, which
the subscriber takes. -/
theorem reported_pending_after_failure :
    let failed : Loaded Nat := .error .abandoned
    let early : History Nat := [(.leave, .nothing), (.write, .written failed)]
    let used : Exchange Nat := ⟨.failed .abandoned, true, false, .gone⟩
    start.Runs early used ∧ used.IsSpent ∧ used.isSubscribed = true ∧
      used.Runs
        [(.askLoading, .truth false), (.take, .taken (some failed)), (.askLoading, .truth true)]
        { used with slot := .loading } :=
  ⟨⟨_, rfl, _, rfl, rfl⟩, Or.inl rfl, rfl, _, rfl, _, rfl, _, rfl, rfl⟩

end Done

end JunctionReplay.Exchange
