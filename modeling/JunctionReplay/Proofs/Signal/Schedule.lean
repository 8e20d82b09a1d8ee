import JunctionReplay.Signal.Schedule

/-!
# States of a schedule

A schedule has an entry for each of its phases and a closing one, which shows the first state
again.  Whatever the time, one of the entries holds, so a schedule of phases always shows the
state of one of them.

## Main Statements

* `Schedule.map_state_entries_ofPhases` — the states of the entries.
* `Schedule.activePhase` — the phase that is active at a time.
* `Schedule.stateAt?_ofPhases` — the state that is shown is that of the active phase.
-/

namespace JunctionReplay.Schedule

variable {α : Type} [Scalar α]

/-- The entries from a time on show the states of the phases and then the closing state. -/
theorem map_state_entriesFrom (closing : String) (time : α) (phases : List (Phase α)) :
    (entriesFrom closing time phases).map ScheduleEntry.state =
      phases.map Phase.state ++ [closing] := by
  induction phases generalizing time with
  | nil => rfl
  | cons phase rest ih =>
      rw [entriesFrom, List.map_cons, ih]
      rfl

/-- The entries of a schedule show the states of its phases and then the first one again. -/
theorem map_state_entries_ofPhases (first : Phase α) (rest : List (Phase α)) :
    (ofPhases (first :: rest)).entries.map ScheduleEntry.state =
      (first :: rest).map Phase.state ++ [first.state] :=
  map_state_entriesFrom first.state 0 (first :: rest)

theorem length_entries_ofPhases (first : Phase α) (rest : List (Phase α)) :
    (ofPhases (first :: rest)).entries.length = (first :: rest).length + 1 := by
  simpa using congrArg List.length (map_state_entries_ofPhases first rest)

/-- The place of the active entry is one of the schedule, unless that is empty. -/
theorem activePlace_lt (schedule : Schedule α) (nonempty : schedule.entries ≠ []) (time : α) :
    schedule.activePlace time < schedule.entries.length := by
  have positive := List.length_pos_iff.mpr nonempty
  have atMost := (List.takeWhile_sublist
    (fun entry => decide (entry.time ≤ schedule.localTime time)) (l := schedule.entries)).length_le
  unfold activePlace
  dsimp only
  omega

/-- The place of the phase that is active at a time; the closing entry belongs to the first
one. -/
def activePhase (schedule : Schedule α) (time : α) : Nat :=
  schedule.activePlace time % (schedule.entries.length - 1)

theorem activePhase_ofPhases_lt (first : Phase α) (rest : List (Phase α)) (time : α) :
    (ofPhases (first :: rest)).activePhase time < (first :: rest).length := by
  rw [activePhase, length_entries_ofPhases]
  exact Nat.mod_lt _ (Nat.succ_pos _)

/-- A schedule of phases shows the state of the active one. -/
theorem stateAt?_ofPhases (first : Phase α) (rest : List (Phase α)) (time : α) :
    (ofPhases (first :: rest)).stateAt? time =
      (first :: rest)[(ofPhases (first :: rest)).activePhase time]?.map Phase.state := by
  have length := length_entries_ofPhases first rest
  have within := activePlace_lt (ofPhases (first :: rest))
    (List.ne_nil_of_length_pos (length ▸ Nat.succ_pos _)) time
  rw [length] at within
  rw [stateAt?, activePhase, length, ← List.getElem?_map, map_state_entries_ofPhases,
    Nat.add_sub_cancel]
  generalize (ofPhases (first :: rest)).activePlace time = place at within ⊢
  -- Only the closing entry is not that of the phase at the same place.
  rcases Nat.lt_or_eq_of_le (Nat.le_of_lt_succ within) with earlier | closing
  · rw [Nat.mod_eq_of_lt earlier, List.getElem?_append_left (by simpa using earlier),
      List.getElem?_map]
  · subst closing
    rw [Nat.mod_self, List.getElem?_append_right (by simp)]
    simp

/-- At every time a schedule of phases shows the state of one of them. -/
theorem exists_stateAt?_ofPhases (first : Phase α) (rest : List (Phase α)) (time : α) :
    ∃ phase ∈ first :: rest, (ofPhases (first :: rest)).stateAt? time = some phase.state := by
  have within := activePhase_ofPhases_lt first rest time
  rw [stateAt?_ofPhases, List.getElem?_eq_getElem within]
  exact ⟨_, List.getElem_mem within, rfl⟩

end JunctionReplay.Schedule
