import JunctionReplay.Proofs.Payload.Stores
import JunctionReplay.Proofs.Settings.Numbers
import JunctionReplay.Proofs.Signal.PhaseTimes

/-!
# Cycles of lights that were read

What a payload says of the phases of a light is used as a whole or not at all: either the light runs
through its recorded phases, one by one and as they are, or through those of the standard cycle.
Both have positive durations, the former because nothing else is kept, the latter because the check
of the timing has passed.

With positive durations the start times are in order, which the search for a time relies on, and
since there is at least one phase the search always ends at an entry.

## Main Definitions

* `TrafficLight.IsCyclic` — a light runs through phases in turn.
* `Payload.LightRecord.HasUsablePhases` — all recorded phases of a light can be used.
* `Payload.LightRecord.BecomesLight` — which light a record becomes.

## Main Statements

* `Schedule.pairwise_time_ofPhases` — the entries of a schedule are in the order of time.
* `Payload.LightRecord.becomesLight_of_toLight` — a record with a timing that passes its check.
* `Payload.storeOfText_lights` — the lights of a payload.
-/

namespace JunctionReplay

/-! ## Lights with phases -/

/-- A light runs through phases in turn, and starts again. -/
structure TrafficLight.IsCyclic {α : Type} [Scalar α] (light : TrafficLight α) : Prop where
  duration_pos : ∀ phase ∈ light.phases, 0 < phase.duration
  /-- There is a first phase, and the entries of the schedule are one for each phase and a closing
  one that shows the first state again. -/
  exists_first : ∃ first, light.phases.head? = some first ∧
    light.schedule.entries.map ScheduleEntry.state =
      light.phases.map Phase.state ++ [first.state]
  starts_at_zero : light.schedule.entries.head?.map ScheduleEntry.time = some 0
  times_ordered : light.schedule.entries.Pairwise fun earlier later => earlier.time ≤ later.time
  /-- Whatever the time, the state of a phase is shown. -/
  shows_phase : ∀ time, ∃ phase ∈ light.phases, light.schedule.stateAt? time = some phase.state

section

variable {α : Type} [Scalar α] [CyclicScalar α] {phases : List (Phase α)}

/-- With positive durations the entries of a schedule are in the order of time. -/
theorem Schedule.pairwise_time_ofPhases (positive : ∀ phase ∈ phases, 0 < phase.duration) :
    (ofPhases phases).entries.Pairwise fun earlier later => earlier.time ≤ later.time := by
  refine List.pairwise_iff_getElem.mpr fun place other within otherWithin before => ?_
  rw [time_of_getElem?_ofPhases (List.getElem?_eq_getElem within),
    time_of_getElem?_ofPhases (List.getElem?_eq_getElem otherWithin)]
  exact startOf_mono positive (Nat.le_of_lt before)

/-- A light with positive durations runs through its phases. -/
theorem TrafficLight.isCyclic_ofPhases (id : String) (nonempty : phases ≠ [])
    (positive : ∀ phase ∈ phases, 0 < phase.duration) :
    TrafficLight.IsCyclic ⟨id, phases, .ofPhases phases⟩ := by
  obtain ⟨first, rest, rfl⟩ := List.exists_cons_of_ne_nil nonempty
  exact
    { duration_pos := positive
      exists_first := ⟨first, rfl, Schedule.map_state_entries_ofPhases first rest⟩
      starts_at_zero := rfl
      times_ordered := Schedule.pairwise_time_ofPhases positive
      shows_phase := Schedule.exists_stateAt?_ofPhases first rest }

end

/-! ## The standard cycle -/

/-- The phases of the standard cycle last as long as the timing says. -/
theorem StandardCycle.map_duration_phases {α : Type} {connections : List LaneConnection}
    {directions : Directions} {timing : CycleTiming α} {shown : List (Phase α)}
    (built : phases connections directions timing = .ok shown) :
    shown.map Phase.duration =
      [timing.northSouthGreen, timing.northSouthYellow, timing.eastWestGreen,
        timing.eastWestYellow] := by
  by_cases holds : stateLength connections timing.fallbackStateLength < stateLimit
  · rw [phases_eq directions holds] at built
    cases built
    rfl
  · have fails : phases connections directions timing = .error .stateTooLong :=
      (phases_eq_error_iff directions).mpr ⟨rfl, Nat.le_of_not_lt holds⟩
    rw [fails] at built
    cases built

/-- With a timing that can be used they all last for some time. -/
theorem StandardCycle.duration_pos {α : Type} [Scalar α] {connections : List LaneConnection}
    {directions : Directions} {timing : CycleTiming α} {shown : List (Phase α)}
    (usable : timing.IsUsable) (built : phases connections directions timing = .ok shown) :
    ∀ phase ∈ shown, 0 < phase.duration := by
  intro phase member
  have listed : phase.duration ∈ timing.namedDurations.map Prod.snd := by
    have duration := List.mem_map_of_mem (f := Phase.duration) member
    rwa [map_duration_phases built] at duration
  obtain ⟨named, isNamed, same⟩ := List.mem_map.mp listed
  exact same ▸ (usable.isFinite_pos named isNamed).2

namespace Payload

variable {connections : List LaneConnection} {directions : Directions} {timing : CycleTiming Float}
  {light : TrafficLight Float}

/-! ## Recorded lights -/

namespace LightRecord

variable {record : LightRecord} {phases : List (Phase Float)}

/-- There are recorded phases, and all of them have a positive duration and a state. -/
def HasUsablePhases (record : LightRecord) : Prop :=
  record.phases ≠ [] ∧ ∀ phase ∈ record.phases,
    0.0 < phase.duration ∧ ∃ state, phase.state = some state ∧ state ≠ ""

/-- A light has phases of its own exactly if all recorded ones can be used. -/
theorem hasUsablePhases_iff :
    record.HasUsablePhases ↔ ∃ phases, record.ownPhases? = some phases := by
  simp only [ownPhases?_eq_some_iff]
  constructor
  · rintro ⟨nonempty, usable⟩
    let keep (recorded : PhaseRecord) : Phase Float := ⟨recorded.duration, recorded.state.getD ""⟩
    have kept : ∀ recorded ∈ record.phases, PhaseRecord.ofPhase (keep recorded) = recorded := by
      rintro ⟨duration, _⟩ member
      obtain ⟨-, state, rfl, -⟩ := usable _ member
      rfl
    refine ⟨record.phases.map keep, mt List.map_eq_nil_iff.mp nonempty, ?_, ?_⟩
    · rw [List.map_map]
      exact ((List.map_congr_left kept).trans (List.map_id _)).symm
    · intro phase member
      obtain ⟨recorded, listed, rfl⟩ := List.mem_map.mp member
      obtain ⟨positive, state, same, nonempty⟩ := usable recorded listed
      exact ⟨positive, by simpa [keep, same] using nonempty⟩
  · rintro ⟨phases, nonempty, recorded, usable⟩
    rw [HasUsablePhases, recorded]
    refine ⟨mt List.map_eq_nil_iff.mp nonempty, fun other member => ?_⟩
    obtain ⟨phase, listed, rfl⟩ := List.mem_map.mp member
    exact ⟨(usable phase listed).1, phase.state, rfl, (usable phase listed).2⟩

/-- A record becomes a light that runs through its recorded phases, or through the standard
cycle. -/
structure BecomesLight (connections : List LaneConnection) (directions : Directions)
    (timing : CycleTiming Float) (record : LightRecord) (light : TrafficLight Float) : Prop where
  id_eq : light.id = record.id
  /-- Phases that can all be used are kept as they are and in their order. -/
  phases_recorded : record.HasUsablePhases →
    record.phases = light.phases.map PhaseRecord.ofPhase
  /-- Else no recorded phase is used, and there are the four phases of the standard cycle. -/
  phases_standard : ¬ record.HasUsablePhases →
    StandardCycle.phases connections directions timing = .ok light.phases ∧
      light.phases.map Phase.duration =
        [timing.northSouthGreen, timing.northSouthYellow, timing.eastWestGreen,
          timing.eastWestYellow]
  isCyclic : light.IsCyclic

/-- With a timing that can be used every record that becomes a light becomes such a one. -/
theorem becomesLight_of_toLight (usable : timing.IsUsable)
    (built : record.toLight connections directions timing = .ok light) :
    record.BecomesLight connections directions timing light := by
  obtain ⟨phases, shown, rfl⟩ := exists_shownPhases_of_toLight built
  have nonempty := shownPhases_ne_nil shown
  unfold shownPhases at shown
  cases own : record.ownPhases? with
  | some recorded =>
      rw [own] at shown
      cases shown
      obtain ⟨-, same, positive⟩ := ownPhases?_eq_some_iff.mp own
      exact
        { id_eq := rfl
          phases_recorded := fun _ => same
          phases_standard := fun none => absurd (hasUsablePhases_iff.mpr ⟨phases, own⟩) none
          isCyclic := TrafficLight.isCyclic_ofPhases _ nonempty fun phase member =>
            (positive phase member).1 }
  | none =>
      rw [own] at shown
      have notUsable : ¬ record.HasUsablePhases := by
        intro has
        obtain ⟨recorded, isOwn⟩ := hasUsablePhases_iff.mp has
        rw [own] at isOwn
        cases isOwn
      exact
        { id_eq := rfl
          phases_recorded := fun has => absurd has notUsable
          phases_standard := fun _ => ⟨shown, StandardCycle.map_duration_phases shown⟩
          isCyclic := TrafficLight.isCyclic_ofPhases _ nonempty
            (StandardCycle.duration_pos usable shown) }

end LightRecord

/-! ## Stores -/

/-- **The lights of a payload.**  With a timing that passes its check the lights of a store are, in
their order, what the recorded ones become: each of them runs through its recorded phases or through
the four of the standard cycle, never through some of both.  All phases have positive durations, the
schedule has an entry for each of them and a closing one with the first state, its times begin at
zero and do not decrease, and at every time, be it infinite or undefined, the state of one of the
phases is shown. -/
theorem storeOfText_lights {text : String} {store : Store Float} (valid : timing.check = .ok ())
    (loaded : storeOfText text directions timing = .ok (.ok store)) :
    ∃ output results, recordsOfText text = .ok (output, results) ∧
      List.Forall₂ (LightRecord.BecomesLight store.connections directions timing)
        output.lights store.lights := by
  have usable := (CycleTiming.check_eq_ok_iff timing).mp valid
  obtain ⟨output, results, read, assembled⟩ := exists_assemble_of_storeOfText loaded
  obtain ⟨lights, built, rfl⟩ := exists_lights_of_assemble assembled
  refine ⟨output, results, read, (forall₂_of_mapM_eq_ok built).imp ?_⟩
  intro record light becomes
  exact LightRecord.becomesLight_of_toLight usable becomes

set_option maxRecDepth 4000 in
/-- A light with two phases that are kept, and one of whose phases the second has no state, so that
it runs through the standard cycle. -/
theorem storeOfText_lights_two_lights :
    let text :=
      "\x7b\x22intersection\x22:\x7b\x22trafficLights\x22:[
        \x7b\x22id\x22:\x22x\x22,\x22phases\x22:[
          \x7b\x22duration\x22:5,\x22state\x22:\x22r\x22\x7d,
          \x7b\x22duration\x22:2,\x22state\x22:\x22G\x22\x7d]\x7d,
        \x7b\x22id\x22:\x22y\x22,\x22phases\x22:[
          \x7b\x22duration\x22:5,\x22state\x22:\x22G\x22\x7d,
          \x7b\x22duration\x22:2\x7d]\x7d],
        \x22connections\x22:[\x7b\x22from\x22:\x22a\x22,\x22to\x22:\x22c\x22,\x22tl\x22:1\x7d]\x7d\x7d"
    let directions : Directions := [("a", .north)]
    let kept : List (Phase Float) := [⟨5.0, "r"⟩, ⟨2.0, "G"⟩]
    let synthesized : List (Phase Float) :=
      [⟨30.0, "rG"⟩, ⟨5.0, "ry"⟩, ⟨30.0, "rr"⟩, ⟨5.0, "rr"⟩]
    let store : Store Float :=
      { nodes := []
        edges := []
        vehicles := []
        lights := [⟨"x", kept, .ofPhases kept⟩, ⟨"y", synthesized, .ofPhases synthesized⟩]
        connections := [⟨"a", "c", 0, 0, 1⟩]
        results := none }
    (CycleTiming.standard : CycleTiming Float).check = .ok () ∧
      storeOfText text directions .standard = .ok (.ok store) ∧
      ∃ output results, recordsOfText text = .ok (output, results) ∧
        List.Forall₂ (LightRecord.BecomesLight store.connections directions .standard)
          output.lights store.lights := by
  intro text directions kept synthesized store
  have valid : (CycleTiming.standard : CycleTiming Float).check = .ok () := by decide
  have loaded : storeOfText text directions .standard = .ok (.ok store) :=
    storeOfText_of_document (by decide +kernel)
  exact ⟨valid, loaded, storeOfText_lights valid loaded⟩

end Payload

end JunctionReplay
