import JunctionReplay.Proofs.Scalar.Remainder
import JunctionReplay.Proofs.Signal.Schedule
import JunctionReplay.Signal.Resolve

/-!
# Phases by time

The entries of a schedule start when the durations in front of them have passed, so with positive
durations they stand in the order of time.  A short duration may be lost in a sum that is rounded,
and then two entries share a time; of these the later one is the one that is shown.

A time is moved into the cycle first.  What comes out lies before the end of the cycle, where the
closing entry stands, so that the closing entry is never looked up.  In exact arithmetic it is also
the same for all times that are whole cycles apart, whichever side of zero they are on, and with it
everything that is shown.

## Main Definitions

* `Schedule.startOf` — when a phase starts within the cycle.
* `Schedule.IsLastStarted` — which phase is the last one that has started.

## Main Statements

* `Schedule.exists_entry_before_later` — where the search for a time stops.
* `Schedule.isLastStarted_activePlace` — the place that is looked up within the cycle.
* `Schedule.shows_last_started_phase` — the state that is shown is that of the last phase that
  has started.
* `Schedule.shows_same_each_cycle` — what is shown repeats with every cycle.
-/

namespace JunctionReplay.Schedule

open Scalar (IsNumber)

variable {α : Type} [Scalar α] {phases : List (Phase α)} {place other : Nat}

/-! ## Start times -/

/-- The time of the cycle at which a phase starts: the sum, from left to right, of the durations
of the phases in front of it. -/
def startOf (phases : List (Phase α)) (place : Nat) : α :=
  ((phases.take place).map Phase.duration).foldl (· + ·) 0

theorem startOf_succ {phase : Phase α} (found : phases[place]? = some phase) :
    startOf phases (place + 1) = startOf phases place + phase.duration := by
  simp [startOf, List.take_add_one, found]

/-- Behind the last phase nothing is added. -/
theorem startOf_succ_of_none (none : phases[place]? = none) :
    startOf phases (place + 1) = startOf phases place := by
  simp [startOf, List.take_add_one, none]

theorem time_of_getElem?_entriesFrom {closing : String} {time : α} {entry : ScheduleEntry α}
    (found : (entriesFrom closing time phases)[place]? = some entry) :
    entry.time = ((phases.take place).map Phase.duration).foldl (· + ·) time := by
  induction phases generalizing time place with
  | nil =>
      cases place with
      | zero =>
          cases found
          rfl
      | succ place => simp [entriesFrom] at found
  | cons phase rest ih =>
      cases place with
      | zero =>
          cases found
          rfl
      | succ place => exact ih found

theorem time_of_getElem?_ofPhases {entry : ScheduleEntry α}
    (found : (ofPhases phases).entries[place]? = some entry) :
    entry.time = startOf phases place := by
  cases phases with
  | nil => cases found
  | cons first rest => exact time_of_getElem?_entriesFrom found

/-- The cycle is as long as all phases together. -/
theorem cycleLength_ofPhases (phases : List (Phase α)) :
    (ofPhases phases).cycleLength = startOf phases phases.length := by
  cases phases with
  | nil => rfl
  | cons first rest =>
      have length := length_entries_ofPhases first rest
      unfold cycleLength
      rw [List.getLast?_eq_getElem?, length, Nat.add_sub_cancel]
      cases found : (ofPhases (first :: rest)).entries[(first :: rest).length]? with
      | some closing => exact time_of_getElem?_ofPhases found
      | none =>
          rw [List.getElem?_eq_none_iff, length] at found
          omega

section

variable [CyclicScalar α]

section

variable (positive : ∀ phase ∈ phases, 0 < phase.duration)

include positive

theorem startOf_nonneg (place : Nat) : 0 ≤ startOf phases place := by
  induction place with
  | zero => exact Scalar.isNumber_zero
  | succ place ih =>
      cases found : phases[place]? with
      | none =>
          rw [startOf_succ_of_none found]
          exact ih
      | some phase =>
          have durationPos := positive phase (List.mem_of_getElem? found)
          rw [startOf_succ found]
          exact OrderedScalar.le_trans ih
            (MonotoneScalar.le_add ih (Scalar.le_of_lt durationPos))

theorem startOf_le_succ (place : Nat) : startOf phases place ≤ startOf phases (place + 1) := by
  have nonneg := startOf_nonneg positive place
  cases found : phases[place]? with
  | none =>
      rw [startOf_succ_of_none found]
      exact (OrderedScalar.isNumber_of_le nonneg).2
  | some phase =>
      have durationPos := positive phase (List.mem_of_getElem? found)
      rw [startOf_succ found]
      exact MonotoneScalar.le_add nonneg (Scalar.le_of_lt durationPos)

/-- Later phases do not start earlier. -/
theorem startOf_mono (le : place ≤ other) : startOf phases place ≤ startOf phases other := by
  induction other, le using Nat.le_induction with
  | base => exact (OrderedScalar.isNumber_of_le (startOf_nonneg positive place)).2
  | succ other le ih => exact OrderedScalar.le_trans ih (startOf_le_succ positive other)

theorem startOf_length_pos (nonempty : phases ≠ []) : 0 < startOf phases phases.length := by
  cases phases with
  | nil => exact absurd rfl nonempty
  | cons first rest =>
      have durationPos := positive first List.mem_cons_self
      have start : startOf (first :: rest) 1 = 0 + first.duration := startOf_succ rfl
      have passed : first.duration ≤ startOf (first :: rest) 1 := by
        rw [start]
        exact CyclicScalar.le_add_left Scalar.isNumber_zero (Scalar.le_of_lt durationPos)
      have rest := startOf_mono positive (Nat.succ_le_succ (Nat.zero_le rest.length))
      exact Scalar.lt_of_lt_of_le durationPos (OrderedScalar.le_trans passed rest)

end

/-! ## The phase that has started last -/

/-- A phase is the last one that has started by a time of the cycle. -/
structure IsLastStarted (phases : List (Phase α)) (time : α) (place : Nat) : Prop where
  started : startOf phases place ≤ time
  not_started_later : ∀ other, place < other → other < phases.length → ¬ startOf phases other ≤ time

/-- The number of entries up to the first later one is the place where that one stands. -/
theorem length_takeWhile_eq_findIdx {β : Type} (test : β → Bool) (entries : List β) :
    (entries.takeWhile test).length = entries.findIdx fun entry => !test entry := by
  rw [List.takeWhile_eq_take_findIdx_not, List.length_take,
    Nat.min_eq_left List.findIdx_le_length]

/-- The search stops behind an entry that has started, in front of one that is later, as long as
the closing entry is later. -/
theorem exists_entry_before_later {shown : α} (nonneg : 0 ≤ shown)
    (below : shown < startOf phases phases.length) :
    ∃ last, last < phases.length ∧
      ((ofPhases phases).entries.takeWhile fun entry => decide (entry.time ≤ shown)).length =
        last + 1 ∧
      startOf phases last ≤ shown ∧ ¬ startOf phases (last + 1) ≤ shown := by
  have length : (ofPhases phases).entries.length = phases.length + 1 := by
    cases phases with
    | nil => exact absurd nonneg (Scalar.not_le_of_lt below)
    | cons first rest => exact length_entries_ofPhases first rest
  have timeAt (place : Nat) (within : place < (ofPhases phases).entries.length) :
      (ofPhases phases).entries[place].time = startOf phases place :=
    time_of_getElem?_ofPhases (List.getElem?_eq_getElem within)
  rw [length_takeWhile_eq_findIdx]
  generalize started_eq : (ofPhases phases).entries.findIdx
    (fun entry => !decide (entry.time ≤ shown)) = started
  -- All entries in front of the first later one have started, the first of all among them.
  have before (place : Nat) (lt : place < started) : startOf phases place ≤ shown := by
    subst started_eq
    have passed := List.not_of_lt_findIdx lt
    rw [Bool.not_eq_false', decide_eq_true_iff, timeAt] at passed
    exact passed
  have atMost : started ≤ phases.length := by
    by_contra beyond
    exact Scalar.not_le_of_lt below (before phases.length (Nat.not_le.mp beyond))
  have within : started < (ofPhases phases).entries.length :=
    length.symm ▸ Nat.lt_succ_of_le atMost
  have notYet : ¬ startOf phases started ≤ shown := by
    subst started_eq
    have later := List.findIdx_getElem (w := within)
    rw [Bool.not_eq_true', decide_eq_false_iff_not, timeAt] at later
    exact later
  have some_started : 0 < started := by
    refine Nat.pos_of_ne_zero fun none => notYet ?_
    rw [none]
    exact nonneg
  obtain ⟨last, rfl⟩ := Nat.exists_eq_add_one.mpr some_started
  exact ⟨last, Nat.lt_of_succ_le atMost, rfl, before last (Nat.lt_succ_self last), notYet⟩

section

variable (positive : ∀ phase ∈ phases, 0 < phase.duration) {time : α}

include positive

/-- Within the cycle the last phase that has started is looked up, and the next entry, which may be
the closing one, is later. -/
theorem isLastStarted_activePlace (nonneg : 0 ≤ (ofPhases phases).localTime time)
    (below : (ofPhases phases).localTime time < startOf phases phases.length) :
    (ofPhases phases).activePlace time < phases.length ∧
      IsLastStarted phases ((ofPhases phases).localTime time)
        ((ofPhases phases).activePlace time) ∧
      (ofPhases phases).localTime time <
        startOf phases ((ofPhases phases).activePlace time + 1) := by
  obtain ⟨last, within, length, started, notYet⟩ := exists_entry_before_later nonneg below
  have place_eq : (ofPhases phases).activePlace time = last := congrArg (· - 1) length
  rw [place_eq]
  refine ⟨within, ⟨started, fun other after _ startedLater => ?_⟩, ?_⟩
  · exact notYet (OrderedScalar.le_trans (startOf_mono positive after) startedLater)
  · exact Scalar.lt_of_not_le (OrderedScalar.isNumber_of_le nonneg).2
      (OrderedScalar.isNumber_of_le (startOf_nonneg positive (last + 1))).2 notYet

/-- **The phase that is shown.**  With positive durations that have a finite sum, what is shown at
a finite time from zero on is the state of a phase: the last one that has started by what is left
of the time after whole cycles.  The next entry is later than that, so the closing entry is not the
one that is looked up.  Without phases nothing is shown. -/
theorem shows_last_started_phase (finite : Scalar.isFinite (startOf phases phases.length))
    (finiteTime : Scalar.isFinite time) (nonneg : 0 ≤ time) :
    let schedule := ofPhases phases
    let shown := Scalar.wrap time (startOf phases phases.length)
    (phases = [] → schedule.stateAt? time = none) ∧
      (phases ≠ [] → ∃ place phase, phases[place]? = some phase ∧
        schedule.stateAt? time = some phase.state ∧ schedule.activePlace time = place ∧
        IsLastStarted phases shown place ∧
        ∃ next, schedule.entries[place + 1]? = some next ∧ shown < next.time) := by
  refine ⟨?_, ?_⟩
  · rintro rfl
    rfl
  · intro nonempty
    have cyclePos := startOf_length_pos positive nonempty
    have isWrapped : (ofPhases phases).localTime time =
        Scalar.wrap time (startOf phases phases.length) := by
      rw [localTime, cycleLength_ofPhases, if_pos cyclePos]
    have wrapNonneg := CyclicScalar.wrap_nonneg finiteTime nonneg finite cyclePos
    have wrapLt := CyclicScalar.wrap_lt finiteTime nonneg finite cyclePos
    rw [← isWrapped] at wrapNonneg wrapLt ⊢
    obtain ⟨within, isLast, beforeNext⟩ := isLastStarted_activePlace positive wrapNonneg wrapLt
    cases phases with
    | nil => exact absurd rfl nonempty
    | cons first rest =>
        have length := length_entries_ofPhases first rest
        have shows := stateAt?_ofPhases first rest time
        have isPhase := List.getElem?_eq_getElem within
        have nextWithin : (ofPhases (first :: rest)).activePlace time + 1 <
            (ofPhases (first :: rest)).entries.length := by
          rw [length]
          exact Nat.succ_lt_succ within
        have isNext := List.getElem?_eq_getElem nextWithin
        rw [activePhase, length, Nat.add_sub_cancel, Nat.mod_eq_of_lt within, isPhase] at shows
        refine ⟨_, _, isPhase, shows, rfl, isLast, _, isNext, ?_⟩
        rw [time_of_getElem?_ofPhases isNext]
        exact beforeNext

end

/-- The second phase is too short to count, so that the third one starts at the same time; it is
shown at exactly that time of the second cycle. -/
theorem shows_last_started_phase_after_lost_one :
    let phases : List (Phase Float) := [⟨10.0, "Gr"⟩, ⟨1e-20, "yr"⟩, ⟨5.0, "rG"⟩]
    (∀ phase ∈ phases, 0 < phase.duration) ∧ Scalar.isFinite (startOf phases phases.length) ∧
      (Scalar.isFinite (25.0 : Float) ∧ (0 : Float) ≤ 25.0) ∧
      ∃ place phase, phases[place]? = some phase ∧
        (ofPhases phases).stateAt? 25.0 = some phase.state ∧
        IsLastStarted phases (Scalar.wrap 25.0 (startOf phases phases.length)) place := by
  intro phases
  have positive : ∀ phase ∈ phases, 0 < phase.duration := by decide
  have finite : Scalar.isFinite (startOf phases phases.length) := by decide +kernel
  have finiteTime : Scalar.isFinite (25.0 : Float) := by decide
  have nonneg : (0 : Float) ≤ 25.0 := by decide
  obtain ⟨place, phase, found, shows, -, isLast, -⟩ :=
    (shows_last_started_phase positive finite finiteTime nonneg).2 nofun
  exact ⟨positive, finite, ⟨finiteTime, nonneg⟩, place, phase, found, shows, isLast⟩

end

/-! ## Whole cycles -/

section

variable {schedule : Schedule α} {time other : α}

/-- What is looked up depends on the time of the cycle alone. -/
theorem stateAt?_eq_of_localTime_eq (same : schedule.localTime time = schedule.localTime other) :
    schedule.stateAt? time = schedule.stateAt? other := by
  unfold stateAt? activePlace
  rw [same]

/-- The colors of the roads depend on the state alone. -/
theorem edgeColors_eq_of_stateAt?_eq (same : schedule.stateAt? time = schedule.stateAt? other)
    (connections : List LaneConnection) :
    schedule.edgeColors time connections = schedule.edgeColors other connections := by
  unfold edgeColors
  rw [same]

end

theorem localTime_add_cycles {schedule : Schedule Rat} (nonneg : 0 ≤ schedule.cycleLength)
    (time : Rat) (cycles : Int) :
    schedule.localTime (time + cycles * schedule.cycleLength) = schedule.localTime time := by
  rcases nonneg.lt_or_eq with positive | none
  · unfold localTime
    rw [if_pos positive, if_pos positive, Scalar.wrap_add_mul positive]
  · rw [← none, mul_zero, add_zero]

/-- **What is shown repeats with every cycle.**  In exact arithmetic the state of a light is the
same at times that are whole cycles apart, before zero and after it, and so are the colors of the
roads and of the sides of the intersection. -/
theorem shows_same_each_cycle {phases : List (Phase Rat)}
    (positive : ∀ phase ∈ phases, 0 < phase.duration) (time : Rat) (cycles : Int) :
    let schedule := ofPhases phases
    let moved := time + cycles * schedule.cycleLength
    schedule.stateAt? moved = schedule.stateAt? time ∧
      ∀ connections, schedule.edgeColors moved connections = schedule.edgeColors time connections ∧
        ∀ directions, schedule.approachColors moved connections directions =
          schedule.approachColors time connections directions := by
  intro schedule moved
  have nonneg : 0 ≤ schedule.cycleLength := by
    rw [cycleLength_ofPhases]
    exact startOf_nonneg positive phases.length
  have sameState : schedule.stateAt? moved = schedule.stateAt? time :=
    stateAt?_eq_of_localTime_eq (localTime_add_cycles nonneg time cycles)
  refine ⟨sameState, fun connections => ?_⟩
  have sameColors := edgeColors_eq_of_stateAt?_eq sameState connections
  refine ⟨sameColors, fun directions => ?_⟩
  unfold approachColors
  rw [sameColors]

/-- A time before zero, moved forward over it. -/
theorem shows_same_each_cycle_before_zero :
    let phases : List (Phase Rat) := [⟨10, "Gr"⟩, ⟨5 / 2, "rG"⟩]
    (∀ phase ∈ phases, 0 < phase.duration) ∧
      (ofPhases phases).stateAt? (-1 + (3 : Int) * (ofPhases phases).cycleLength) =
        (ofPhases phases).stateAt? (-1) := by
  intro phases
  have positive : ∀ phase ∈ phases, 0 < phase.duration := by decide +kernel
  exact ⟨positive, (shows_same_each_cycle positive (-1) 3).1⟩

end JunctionReplay.Schedule
