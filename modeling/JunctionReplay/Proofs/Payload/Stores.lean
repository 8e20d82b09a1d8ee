import JunctionReplay.Proofs.Payload.Loading
import JunctionReplay.Proofs.Payload.VehicleSamples
import JunctionReplay.Proofs.Signal.Schedule
import JunctionReplay.Proofs.Trajectory.Times

/-!
# Stores of payloads

What can be relied on in a store that was read from a payload, whatever the payload holds: every
trajectory is strictly increasing in time, and every light runs through at least one phase, be it
one of its own or of the standard cycle.

## Main Definitions

* `Payload.IsLoaded` — a store was read from a text.

## Main Statements

* `Payload.LightRecord.ownPhases?_eq_some_iff` — when a light has phases of its own.
* `Payload.exists_assemble_of_storeOfText` — the records from which a store was assembled.
* `Payload.IsLoaded.isIncreasing` — the samples of its vehicles, with finite times.
* `Payload.IsLoaded.schedule_eq` — the schedules of its lights.
-/

namespace JunctionReplay

/-- The samples of a trajectory have finite times. -/
def Trajectory.IsFinite (trajectory : Trajectory Float) : Prop :=
  ∀ sample ∈ trajectory.samples, sample.time.isFinite

namespace Payload

variable {directions : Directions} {timing : CycleTiming Float} {store : Store Float}

/-- A store was read from the text of a payload. -/
def IsLoaded (store : Store Float) : Prop :=
  ∃ text directions timing, storeOfText text directions timing = .ok (.ok store)

/-- The store of a file is the store of its text. -/
theorem storeOfFile_toUTF8 (text : String) :
    storeOfFile (.bytes text.toUTF8) directions timing = storeOfText text directions timing := by
  have decoded : String.fromUTF8? text.toUTF8 = some text := dif_pos text.isValidUTF8
  unfold storeOfFile readText
  dsimp only
  rw [decoded]

theorem isLoaded_of_storeOfFile {file : FileState}
    (loaded : storeOfFile file directions timing = .ok (.ok store)) : IsLoaded store := by
  unfold storeOfFile at loaded
  split at loaded
  next => cases loaded
  next text read => exact ⟨text, directions, timing, loaded⟩

/-! ## Trajectories -/

theorem VehicleRecord.toTrajectory_isFinite (record : VehicleRecord) :
    record.toTrajectory.IsFinite := by
  intro sample member
  exact Trajectory.isFinite_of_mem_normalize member

theorem VehicleRecord.toTrajectory_isIncreasing (record : VehicleRecord) :
    record.toTrajectory.IsIncreasing := by
  have ranked := Trajectory.pairwise_rank_normalize record.samples
  have finite := record.toTrajectory_isFinite
  refine List.Pairwise.imp_of_mem ?_ ranked
  intro earlier later earlierMember laterMember below
  have rankedEarlier := Machine.hasRank_of_isFinite (finite earlier earlierMember)
  have rankedLater := Machine.hasRank_of_isFinite (finite later laterMember)
  exact Machine.lt_iff.mpr ⟨⟨rankedEarlier, rankedLater⟩, below⟩

/-! ## Lights -/

/-- The record of a phase that is kept as it is. -/
def PhaseRecord.ofPhase (phase : Phase Float) : PhaseRecord :=
  ⟨phase.duration, some phase.state⟩

/-- A recorded phase is kept as it is if it has a positive duration and a state. -/
theorem PhaseRecord.toPhase?_eq_some_iff {record : PhaseRecord} {phase : Phase Float} :
    record.toPhase? = some phase ↔
      record = .ofPhase phase ∧ 0.0 < phase.duration ∧ phase.state ≠ "" := by
  obtain ⟨duration, recorded⟩ := record
  obtain ⟨length, state⟩ := phase
  cases recorded with
  | none => simp [toPhase?, ofPhase]
  | some state =>
      simp only [toPhase?, ofPhase, PhaseRecord.mk.injEq, Option.some.injEq]
      constructor
      · intro kept
        split at kept
        next usable =>
          cases kept
          exact ⟨⟨rfl, rfl⟩, usable⟩
        next => cases kept
      · rintro ⟨⟨rfl, rfl⟩, usable⟩
        exact if_pos usable

/-- Recorded phases are kept as they are, and in their order, if all of them can be. -/
theorem PhaseRecord.mapM_toPhase?_eq_some_iff {records : List PhaseRecord}
    {phases : List (Phase Float)} :
    records.mapM toPhase? = some phases ↔
      records = phases.map ofPhase ∧ ∀ phase ∈ phases, 0.0 < phase.duration ∧ phase.state ≠ "" := by
  induction records generalizing phases with
  | nil => cases phases <;> simp [pure]
  | cons first rest ih =>
      rw [List.mapM_cons]
      simp only [bind, Option.bind_eq_some_iff, pure, Option.some.injEq]
      constructor
      · rintro ⟨phase, firstKept, others, restKept, rfl⟩
        obtain ⟨rfl, usable⟩ := toPhase?_eq_some_iff.mp firstKept
        obtain ⟨rfl, allUsable⟩ := ih.mp restKept
        exact ⟨rfl, List.forall_mem_cons.mpr ⟨usable, allUsable⟩⟩
      · rintro ⟨same, allUsable⟩
        cases phases with
        | nil => cases same
        | cons phase others =>
            obtain ⟨rfl, rfl⟩ := List.cons.inj same
            obtain ⟨usable, othersUsable⟩ := List.forall_mem_cons.mp allUsable
            exact ⟨phase, toPhase?_eq_some_iff.mpr ⟨rfl, usable⟩, others,
              ih.mpr ⟨rfl, othersUsable⟩, rfl⟩

/-- A light has phases of its own if there are any and all of them can be kept. -/
theorem LightRecord.ownPhases?_eq_some_iff {record : LightRecord} {phases : List (Phase Float)} :
    record.ownPhases? = some phases ↔
      phases ≠ [] ∧ record.phases = phases.map PhaseRecord.ofPhase ∧
        ∀ phase ∈ phases, 0.0 < phase.duration ∧ phase.state ≠ "" := by
  unfold ownPhases?
  constructor
  · intro own
    split at own
    next => cases own
    next nonempty =>
      obtain ⟨recorded, usable⟩ := PhaseRecord.mapM_toPhase?_eq_some_iff.mp own
      refine ⟨?_, recorded, usable⟩
      rintro rfl
      simp [recorded] at nonempty
  · rintro ⟨nonempty, recorded, usable⟩
    rw [if_neg (by simpa [recorded] using nonempty)]
    exact PhaseRecord.mapM_toPhase?_eq_some_iff.mpr ⟨recorded, usable⟩

/-- A light shows at least one phase. -/
theorem LightRecord.shownPhases_ne_nil {record : LightRecord} {connections : List LaneConnection}
    {phases : List (Phase Float)}
    (shown : record.shownPhases connections directions timing = .ok phases) : phases ≠ [] := by
  unfold shownPhases at shown
  cases own : record.ownPhases? with
  | some phases' =>
      rw [own] at shown
      cases shown
      exact (ownPhases?_eq_some_iff.mp own).1
  | none =>
      rw [own] at shown
      dsimp only at shown
      by_cases holds : StandardCycle.stateLength connections timing.fallbackStateLength <
          StandardCycle.stateLimit
      · rw [StandardCycle.phases_eq directions holds] at shown
        cases shown
        exact List.cons_ne_nil _ _
      · have fails : StandardCycle.phases connections directions timing = .error .stateTooLong :=
          (StandardCycle.phases_eq_error_iff directions).mpr ⟨rfl, Nat.le_of_not_lt holds⟩
        rw [fails] at shown
        cases shown

/-- A light has the id of its record, and the schedule of the phases that are shown. -/
theorem LightRecord.exists_shownPhases_of_toLight {record : LightRecord}
    {connections : List LaneConnection} {light : TrafficLight Float}
    (built : record.toLight connections directions timing = .ok light) :
    ∃ phases, record.shownPhases connections directions timing = .ok phases ∧
      light = ⟨record.id, phases, .ofPhases phases⟩ := by
  unfold toLight at built
  cases shown : record.shownPhases connections directions timing with
  | error fault =>
      rw [shown] at built
      cases built
  | ok phases =>
      rw [shown] at built
      cases built
      exact ⟨phases, rfl, rfl⟩

/-- A light runs through its phases, of which there is at least one. -/
theorem LightRecord.schedule_of_toLight {record : LightRecord} {connections : List LaneConnection}
    {light : TrafficLight Float}
    (built : record.toLight connections directions timing = .ok light) :
    light.phases ≠ [] ∧ light.schedule = .ofPhases light.phases := by
  obtain ⟨phases, shown, rfl⟩ := exists_shownPhases_of_toLight built
  exact ⟨shownPhases_ne_nil shown, rfl⟩

/-! ## Stores -/

/-- The store of a text, read from its list of characters: a form that the kernel evaluates. -/
theorem storeOfText_of_document {chars : List Char}
    (read : (Json.document chars).map (storeOf · directions timing) = .ok (.ok (.ok store))) :
    storeOfText (.ofList chars) directions timing = .ok (.ok store) := by
  unfold storeOfText Json.Value.ofText?
  rw [String.toList_ofList]
  cases parsed : Json.document chars with
  | error failure =>
      rw [parsed] at read
      cases read
  | ok document =>
      rw [parsed] at read
      have built : storeOf document directions timing = .ok (.ok store) := Except.ok.inj read
      dsimp only
      rw [parsed]
      change (storeOf document directions timing).map _ = _
      rw [built]
      rfl

/-- A store is assembled from the records of its text. -/
theorem exists_assemble_of_storeOfText {text : String}
    (loaded : storeOfText text directions timing = .ok (.ok store)) :
    ∃ output results, recordsOfText text = .ok (output, results) ∧
      assemble output results directions timing = .ok store := by
  rw [storeOfText_eq] at loaded
  cases read : recordsOfText text with
  | error error =>
      rw [read] at loaded
      cases loaded
  | ok records =>
      obtain ⟨output, results⟩ := records
      rw [read] at loaded
      dsimp only at loaded
      cases assembled : assemble output results directions timing with
      | error fault =>
          rw [assembled] at loaded
          cases loaded
      | ok other =>
          rw [assembled] at loaded
          cases loaded
          exact ⟨output, results, rfl, assembled⟩

/-- The lights of a store are built one by one, and all else is taken from the records. -/
theorem exists_lights_of_assemble {output : OutputRecord} {results : Option (Results Float)}
    (assembled : assemble output results directions timing = .ok store) :
    ∃ lights, output.lights.mapM (LightRecord.toLight output.connections directions timing) =
        .ok lights ∧
      store =
        { nodes := output.intersection.nodes.map NodeRecord.toNode
          edges := output.intersection.edges.map EdgeRecord.toEdgeOfNetwork
          vehicles := output.vehicles.map VehicleRecord.toTrajectory
          lights := lights
          connections := output.connections
          results := results } := by
  unfold assemble at assembled
  cases built : output.lights.mapM (LightRecord.toLight output.connections directions timing) with
  | error fault =>
      rw [built] at assembled
      cases assembled
  | ok lights =>
      rw [built] at assembled
      cases assembled
      exact ⟨lights, rfl, rfl⟩

namespace IsLoaded

/-- The samples of a vehicle that was read have finite times and are strictly increasing. -/
theorem isIncreasing (loaded : IsLoaded store) :
    ∀ vehicle ∈ store.vehicles, vehicle.IsIncreasing ∧ vehicle.IsFinite := by
  obtain ⟨text, directions, timing, loaded⟩ := loaded
  obtain ⟨output, results, -, assembled⟩ := exists_assemble_of_storeOfText loaded
  obtain ⟨lights, -, rfl⟩ := exists_lights_of_assemble assembled
  intro vehicle member
  obtain ⟨record, -, rfl⟩ := List.mem_map.mp member
  exact ⟨record.toTrajectory_isIncreasing, record.toTrajectory_isFinite⟩

/-- A light that was read runs through its phases, of which there is at least one. -/
theorem schedule_eq (loaded : IsLoaded store) :
    ∀ light ∈ store.lights, light.phases ≠ [] ∧ light.schedule = .ofPhases light.phases := by
  obtain ⟨text, directions, timing, loaded⟩ := loaded
  obtain ⟨output, results, -, assembled⟩ := exists_assemble_of_storeOfText loaded
  obtain ⟨lights, built, rfl⟩ := exists_lights_of_assemble assembled
  intro light member
  obtain ⟨record, -, read⟩ := exists_mem_of_mapM_eq_ok built light member
  exact record.schedule_of_toLight read

/-- A light that was read shows a state at every time. -/
theorem exists_stateAt? (loaded : IsLoaded store) {light : TrafficLight Float}
    (member : light ∈ store.lights) (time : Float) :
    ∃ state, light.schedule.stateAt? time = some state := by
  obtain ⟨nonempty, schedule⟩ := loaded.schedule_eq light member
  obtain ⟨first, rest, phases⟩ := List.exists_cons_of_ne_nil nonempty
  obtain ⟨phase, -, active⟩ := Schedule.exists_stateAt?_ofPhases first rest time
  rw [schedule, phases]
  exact ⟨phase.state, active⟩

end IsLoaded

end Payload

end JunctionReplay
