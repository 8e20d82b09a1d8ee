import JunctionReplay.Proofs.Exchange.Runs

/-!
# Stages of a loader

The loader is an automaton of a few stages, and what a run has prepared and written so far tells
which of them it has reached.  Until something is written the slot stays empty, and the subscriber
gets nothing from it.

## Main Statements

* `Exchange.Progress` — the stages of a loader, with what has been prepared and written.
* `Exchange.Tracks` — what a history tells of the exchange that it leads to.
* `Exchange.tracks_of_runs` — every run is tracked.
-/

namespace JunctionReplay.Exchange

variable {σ : Type}

/-! ## The stages of a loader -/

/-- What a loader has prepared and written, whether the subscriber is there, whether the loader
has set out to hand over a result, and where it stands. -/
inductive Progress :
    List (Loaded σ × Bool) → List (Loaded σ) → Bool → Bool → LoaderStage σ → Prop where
  /-- It has done nothing yet. -/
  | waiting (subscribed : Bool) : Progress [] [] subscribed false .holding
  /-- It has found the subscriber and is about to write. -/
  | writing (result : Loaded σ) (subscribed : Bool) :
      Progress [(result, true)] [] subscribed true (.writing result)
  /-- It has written. -/
  | written (result : Loaded σ) (subscribed : Bool) :
      Progress [(result, true)] [result] subscribed true .holding
  /-- It has written and gone away. -/
  | done (result : Loaded σ) (subscribed : Bool) :
      Progress [(result, true)] [result] subscribed true .gone
  /-- It has not found the subscriber. -/
  | refused (result : Loaded σ) : Progress [(result, false)] [] false true .holding
  /-- It has not found the subscriber and gone away. -/
  | refusedDone (result : Loaded σ) : Progress [(result, false)] [] false true .gone
  /-- It is going away without a result and is about to write so. -/
  | abandoning (subscribed : Bool) :
      Progress [] [] subscribed false (.writing (.error .abandoned))
  /-- It has gone away without a result and has written so. -/
  | abandoned (subscribed : Bool) : Progress [] [.error .abandoned] subscribed false .gone
  /-- It has gone away without a result when the subscriber was gone already. -/
  | lost : Progress [] [] false false .gone

/-- What holds of an exchange that a history leads to. -/
structure Tracks (history : History σ) (exchange : Exchange σ) : Prop where
  progress : Progress (preparedIn history) (writtenIn history) exchange.isSubscribed
    exchange.isDelivered exchange.loader
  subscribed : exchange.isSubscribed = false ↔ (.unsubscribe, .nothing) ∈ history
  /-- The loader stops holding its end without having delivered only by going away. -/
  left : exchange.isDelivered = false → exchange.loader ≠ .holding → (.leave, .nothing) ∈ history
  /-- Before the write nothing is in the slot, and the subscriber gets nothing. -/
  pending : writtenIn history = [] → exchange.slot = .loading ∧ GetsNothing history

theorem tracks_start : Tracks [] (start : Exchange σ) where
  progress := .waiting true
  subscribed := by simp [start]
  left := by simp [start]
  pending := fun _ => ⟨rfl, getsNothing_of_eq_nil rfl rfl⟩

namespace Progress

variable {prepared : List (Loaded σ × Bool)} {written : List (Loaded σ)}
variable {subscribed delivered : Bool} {loader : LoaderStage σ} {result : Loaded σ}

/-- A step of the subscriber leaves the loader where it is. -/
theorem unsubscribe (progress : Progress prepared written subscribed delivered loader) :
    Progress prepared written false delivered loader := by
  cases progress with
  | waiting => exact .waiting false
  | writing result => exact .writing result false
  | written result => exact .written result false
  | done result => exact .done result false
  | refused result => exact .refused result
  | refusedDone result => exact .refusedDone result
  | abandoning => exact .abandoning false
  | abandoned => exact .abandoned false
  | lost => exact .lost

/-- A loader that has not delivered and still holds its end has done nothing yet. -/
theorem of_waiting (progress : Progress prepared written subscribed false .holding) :
    prepared = [] ∧ written = [] := by
  cases progress
  exact ⟨rfl, rfl⟩

/-- A loader that is about to write has not written, and writes what it prepared or that it went
away. -/
theorem of_writing (progress : Progress prepared written subscribed delivered (.writing result)) :
    written = [] ∧ ((delivered = true ∧ prepared = [(result, true)]) ∨
      (delivered = false ∧ prepared = [] ∧ result = .error .abandoned)) := by
  cases progress with
  | writing => exact ⟨rfl, Or.inl ⟨rfl, rfl⟩⟩
  | abandoning => exact ⟨rfl, Or.inr ⟨rfl, rfl, rfl⟩⟩

/-- There is at most one write. -/
theorem length_written_le (progress : Progress prepared written subscribed delivered loader) :
    written.length ≤ 1 := by
  cases progress <;> simp

/-- What is prepared and reaches the subscriber is about to be written, or it is all that is
written. -/
theorem of_reached (progress : Progress prepared written subscribed delivered loader)
    (reached : (result, true) ∈ prepared) : loader = .writing result ∧ written = [] ∨
      written = [result] := by
  cases progress <;> simp_all

/-- What is prepared and does not reach the subscriber is not written. -/
theorem of_refused (progress : Progress prepared written subscribed delivered loader)
    (refused : (result, false) ∈ prepared) : written = [] := by
  cases progress <;> simp_all

/-- A loader that has prepared nothing has not delivered, and what it writes is that it went
away. -/
theorem of_nothing_prepared (progress : Progress [] written subscribed delivered loader) :
    delivered = false ∧
      (written = [] ∨ (written = [.error .abandoned] ∧ loader ≠ .holding)) := by
  cases progress <;> simp

/-- A loader that has delivered goes away without a trace. -/
theorem leave (progress : Progress prepared written subscribed true .holding) :
    Progress prepared written subscribed true .gone := by
  cases progress with
  | written result => exact .done result subscribed
  | refused result => exact .refusedDone result

end Progress

/-! ## What a step keeps -/

section Steps

variable {history : History σ} {before after : Exchange σ} {event : Step σ × Answer σ}

/-- What has to hold of a step for the history with it to be tracked. -/
theorem Tracks.extend (tracks : Tracks history before)
    (progress : Progress (preparedIn history ++ preparedIn [event])
      (writtenIn history ++ writtenIn [event]) after.isSubscribed after.isDelivered after.loader)
    (subscribed : after.isSubscribed = false ↔
      before.isSubscribed = false ∨ event = (.unsubscribe, .nothing))
    (left : after.isDelivered = false → after.loader ≠ .holding →
      (before.isDelivered = false ∧ before.loader ≠ .holding) ∨ event = (.leave, .nothing))
    (pending : writtenIn [event] = [] → before.slot = .loading →
      after.slot = .loading ∧ GetsNothing [event]) :
    Tracks (history ++ [event]) after where
  progress := by
    rw [preparedIn_append, writtenIn_append]
    exact progress
  subscribed := by
    rw [subscribed, tracks.subscribed, List.mem_append, List.mem_singleton]
    exact or_congr_right eq_comm
  left notDelivered notHolding := by
    rcases left notDelivered notHolding with ⟨notDelivered, notHolding⟩ | rfl
    · exact List.mem_append_left _ (tracks.left notDelivered notHolding)
    · exact List.mem_append_right _ List.mem_cons_self
  pending noneWritten := by
    rw [writtenIn_append, List.append_eq_nil_iff] at noneWritten
    obtain ⟨slot, nothing⟩ := tracks.pending noneWritten.1
    obtain ⟨afterSlot, nothingNow⟩ := pending noneWritten.2 slot
    exact ⟨afterSlot, nothing.append nothingNow⟩

/-- What has to hold of a step that neither prepares nor writes. -/
theorem Tracks.extend_quiet (tracks : Tracks history before)
    (nothingPrepared : preparedIn [event] = []) (nothingWritten : writtenIn [event] = [])
    (progress : Progress (preparedIn history) (writtenIn history) after.isSubscribed
      after.isDelivered after.loader)
    (subscribed : after.isSubscribed = false ↔
      before.isSubscribed = false ∨ event = (.unsubscribe, .nothing))
    (left : after.isDelivered = false → after.loader ≠ .holding →
      (before.isDelivered = false ∧ before.loader ≠ .holding) ∨ event = (.leave, .nothing))
    (pending : before.slot = .loading → after.slot = .loading ∧ GetsNothing [event]) :
    Tracks (history ++ [event]) after := by
  refine tracks.extend ?_ subscribed left fun _ => pending
  rw [nothingPrepared, nothingWritten, List.append_nil, List.append_nil]
  exact progress

/-- A question leaves the exchange as it is. -/
theorem Tracks.ask (tracks : Tracks history before) (nothingPrepared : preparedIn [event] = [])
    (nothingWritten : writtenIn [event] = []) (stays : event ≠ (.unsubscribe, .nothing))
    (pending : before.slot = .loading → GetsNothing [event]) :
    Tracks (history ++ [event]) before := by
  refine tracks.extend_quiet nothingPrepared nothingWritten tracks.progress (by simp [stays]) ?_ ?_
  · intro notDelivered notHolding
    exact Or.inl ⟨notDelivered, notHolding⟩
  · intro slot
    exact ⟨slot, pending slot⟩

/-- Taking keeps what has been tracked. -/
theorem Tracks.take (tracks : Tracks history before) :
    Tracks (history ++ [(.take, .taken before.take.2)]) before.take.1 := by
  obtain ⟨slot, taken⟩ := take_eq before
  refine tracks.extend_quiet rfl rfl ?_ (by simp [taken]) ?_ fun loading => ?_
  · rw [taken]
    exact tracks.progress
  · rw [taken]
    exact fun notDelivered notHolding => Or.inl ⟨notDelivered, notHolding⟩
  · rw [take_of_loading loading]
    exact ⟨loading, by simp [takenIn], by simp [shownIn]⟩

/-- Going away of the subscriber keeps what has been tracked. -/
theorem Tracks.unsubscribe (tracks : Tracks history before) :
    Tracks (history ++ [(.unsubscribe, .nothing)]) before.unsubscribe := by
  refine tracks.extend_quiet rfl rfl tracks.progress.unsubscribe (by simp [Exchange.unsubscribe])
    ?_ ?_
  · intro notDelivered notHolding
    exact Or.inl ⟨notDelivered, notHolding⟩
  · intro loading
    exact ⟨loading, getsNothing_of_eq_nil rfl rfl⟩

/-- Setting out to hand over a result keeps what has been tracked. -/
theorem Tracks.prepare (tracks : Tracks history before) (result : Loaded σ)
    (waiting : before.isWaiting = true) :
    Tracks (history ++ [(.prepare result, .truth (before.prepare result).2)])
      (before.prepare result).1 := by
  obtain ⟨holding, notDelivered⟩ := isWaiting_iff.mp waiting
  have progress := tracks.progress
  rw [holding, notDelivered] at progress
  obtain ⟨nonePrepared, noneWritten⟩ := progress.of_waiting
  -- Here the subscriber is either found or not, and it can no longer come back.
  cases subscribed : before.isSubscribed with
  | true =>
      rw [prepare_of_subscribed subscribed]
      refine tracks.extend ?_ (by simp) (by simp) fun _ slot => ?_
      · rw [nonePrepared, noneWritten]
        exact .writing result _
      · exact ⟨slot, getsNothing_of_eq_nil rfl rfl⟩
  | false =>
      rw [prepare_of_unsubscribed subscribed]
      refine tracks.extend ?_ (by simp) (by simp) fun _ slot => ?_
      · rw [nonePrepared, noneWritten, subscribed, holding]
        exact .refused result
      · exact ⟨slot, getsNothing_of_eq_nil rfl rfl⟩

/-- Writing keeps what has been tracked. -/
theorem Tracks.write (tracks : Tracks history before) {result : Loaded σ}
    (writing : before.loader = .writing result) :
    Tracks (history ++ [(.write, .written result)]) before.write := by
  have progress := tracks.progress
  rw [writing] at progress
  obtain ⟨noneWritten, prepared⟩ := progress.of_writing
  rw [Exchange.write, writing]
  refine tracks.extend ?_ (by simp) ?_ (by simp [writtenIn])
  · rcases prepared with ⟨delivered, prepared⟩ | ⟨notDelivered, nonePrepared, rfl⟩
    · rw [prepared, noneWritten, delivered]
      exact .written result _
    · rw [nonePrepared, noneWritten, notDelivered]
      exact .abandoned _
  · intro notDelivered _
    exact Or.inl ⟨notDelivered, by simp [writing]⟩

/-- Going away of the loader keeps what has been tracked. -/
theorem Tracks.leave (tracks : Tracks history before) (holding : before.loader = .holding) :
    Tracks (history ++ [(.leave, .nothing)]) before.leave := by
  have progress := tracks.progress
  rw [holding] at progress
  have quiet : GetsNothing [((.leave, .nothing) : Step σ × Answer σ)] :=
    getsNothing_of_eq_nil rfl rfl
  cases delivered : before.isDelivered with
  | true =>
      rw [leave_of_delivered delivered]
      refine tracks.extend_quiet rfl rfl ?_ (by simp) (by simp) fun slot => ⟨slot, quiet⟩
      rw [delivered] at progress ⊢
      exact progress.leave
  | false =>
      rw [delivered] at progress
      obtain ⟨nonePrepared, noneWritten⟩ := progress.of_waiting
      cases subscribed : before.isSubscribed with
      | true =>
          rw [leave_of_subscribed delivered subscribed]
          refine tracks.extend_quiet rfl rfl ?_ (by simp) (by simp) fun slot => ⟨slot, quiet⟩
          rw [nonePrepared, noneWritten, delivered]
          exact .abandoning _
      | false =>
          rw [leave_of_unsubscribed delivered subscribed]
          refine tracks.extend_quiet rfl rfl ?_ (by simp) (by simp) fun slot => ⟨slot, quiet⟩
          rw [nonePrepared, noneWritten, delivered, subscribed]
          exact .lost

/-- Every step keeps what has been tracked. -/
theorem Tracks.moves {step : Step σ} {answer : Answer σ} (tracks : Tracks history before)
    (moves : before.Moves step after answer) : Tracks (history ++ [(step, answer)]) after := by
  cases moves with
  | askLoading => exact tracks.ask rfl rfl (by simp) fun _ => getsNothing_of_eq_nil rfl rfl
  | askStore =>
      refine tracks.ask rfl rfl (by simp) fun slot => ?_
      rw [store?, slot]
      exact ⟨by simp [takenIn], by simp [shownIn]⟩
  | take => exact tracks.take
  | unsubscribe => exact tracks.unsubscribe
  | askSubscribed => exact tracks.ask rfl rfl (by simp) fun _ => getsNothing_of_eq_nil rfl rfl
  | prepare result waiting => exact tracks.prepare result waiting
  | write result writing => exact tracks.write writing
  | leave holding => exact tracks.leave holding

/-- A tracked exchange stays tracked along every run. -/
theorem Tracks.runs {late : History σ} (tracks : Tracks history before)
    (runs : before.Runs late after) : Tracks (history ++ late) after := by
  -- The induction moves events from the front of the run to the end of what is tracked.
  induction late generalizing history before with
  | nil =>
      obtain rfl := runs
      rw [List.append_nil]
      exact tracks
  | cons event rest ih =>
      obtain ⟨next, taken, runs⟩ := runs
      rw [List.append_cons]
      exact ih (tracks.moves (step_eq_some_iff.mp taken)) runs

/-- Every run from the start is tracked. -/
theorem tracks_of_runs (runs : start.Runs history after) : Tracks history after :=
  tracks_start.runs runs

end Steps

end JunctionReplay.Exchange
