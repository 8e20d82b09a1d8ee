import JunctionReplay.Proofs.Signal.EdgeColors
import JunctionReplay.Proofs.Signal.Schedule
import JunctionReplay.Proofs.Signal.StandardCycle
import JunctionReplay.Scalar.Exact

/-!
# Colors of the standard cycle

Each state of the standard cycle marks the signals of one axis and is red everywhere else.  So
while it is shown, all edges of that axis have the color of its mark, and an edge of the other
axis is red unless one of its lanes shares a signal with the first axis.

## Main Statements

* `StandardCycle.MarksAxis` — what a state of the standard cycle holds at each of its places.
* `StandardCycle.MarksAxis.axisShows` — the color of the edges of the marked axis.
* `StandardCycle.MarksAxis.sharesSignal` — edges of both axes are not red at one time only if
  they share a signal.
* `StandardCycle.phases_protect_axes` — the whole cycle, at every time.
-/

namespace JunctionReplay

/-- An edge is shown a color other than red. -/
def ShowsPassage (colors : Keyed String Color) (edge : String) : Prop :=
  ∃ color, colors.get? edge = some color ∧ color ≠ .red

namespace StandardCycle

variable {connections : List LaneConnection} {directions : Directions} {northSouth : Bool}
variable {fallback : Nat} {mark : Char} {state : String} {edge : String}

/-- A state marks the signals of an axis and is red everywhere else. -/
structure MarksAxis (connections : List LaneConnection) (directions : Directions)
    (fallback : Nat) (northSouth : Bool) (mark : Char) (state : String) : Prop where
  length : IsStateLength connections fallback state.toList.length
  /-- Every connection into the intersection has its place. -/
  inside : ∀ lane ∈ connections, lane.isExternal → lane.signalIndex < state.toList.length
  marked : ∀ place, state.toList[place]? = some mark ↔
    IsLit connections directions northSouth place
  red : ∀ place < state.toList.length, ¬ IsLit connections directions northSouth place →
    state.toList[place]? = some 'r'

/-- The states that the cycle is made up of mark the signals of their axis. -/
theorem marksAxis_axisState (connections : List LaneConnection) (directions : Directions)
    (fallback : Nat) (northSouth : Bool) (notRed : mark ≠ 'r') :
    MarksAxis connections directions fallback northSouth mark
      (axisState connections directions fallback northSouth mark) := by
  have places : (axisState connections directions fallback northSouth mark).toList =
      litPlaces (stateLength connections fallback)
        (litIndices connections directions northSouth) mark := String.toList_ofList
  constructor
  · rw [places, length_litPlaces]
    exact isStateLength_stateLength connections fallback
  · intro lane member external
    rw [places, length_litPlaces]
    exact lt_stateLength member external
  · intro place
    rw [places, ← mem_litIndices]
    constructor
    · intro found
      have within : place < stateLength connections fallback := by
        simpa using (List.getElem?_eq_some_iff.mp found).1
      rw [getElem?_litPlaces within] at found
      by_cases lit : place ∈ litIndices connections directions northSouth
      · exact lit
      · rw [if_neg lit] at found
        exact absurd (Option.some.inj found).symm notRed
    · intro lit
      rw [getElem?_litPlaces (mem_litIndices.mp lit).lt_stateLength, if_pos lit]
  · intro place within notLit
    rw [places, length_litPlaces] at within
    rw [← mem_litIndices] at notLit
    rw [places, getElem?_litPlaces within, if_neg notLit]

/-- The signals of the lanes of an edge belong to the axis from which it comes in. -/
theorem isLit_of_mem_edgeLanes {lane : LaneConnection}
    (leads : LeadsFromAxis directions northSouth edge)
    (member : lane ∈ edgeLanes connections edge) :
    IsLit connections directions northSouth lane.signalIndex := by
  obtain ⟨inConnections, external, rfl⟩ := mem_edgeLanes.mp member
  exact ⟨lane, inConnections, external, leads, rfl⟩

/-! ## The colors while a state is shown -/

section Colors

variable {α : Type} [Scalar α] {schedule : Schedule α} {time : α}

/-- All edges of an axis that have lanes into the intersection are shown a color. -/
def AxisShows (connections : List LaneConnection) (directions : Directions)
    (colors : Keyed String Color) (northSouth : Bool) (color : Color) : Prop :=
  ∀ edge, LeadsFromAxis directions northSouth edge → edgeLanes connections edge ≠ [] →
    colors.get? edge = some color

/-- Some signal index is used from the roads of both axes. -/
def SharesSignal (connections : List LaneConnection) (directions : Directions) : Prop :=
  ∃ index, IsLit connections directions true index ∧ IsLit connections directions false index

namespace MarksAxis

/-- While the signals of an axis are marked, its edges have the color of the mark. -/
theorem axisShows (marks : MarksAxis connections directions fallback northSouth mark state)
    (active : schedule.stateAt? time = some state) :
    AxisShows connections directions (schedule.edgeColors time connections) northSouth
      (Color.ofStateChar mark) := by
  intro edge leads hasLanes
  have ofMark : ∀ lane ∈ edgeLanes connections edge,
      stateColor state.toList lane.signalIndex = Color.ofStateChar mark := by
    intro lane member
    have lit := isLit_of_mem_edgeLanes leads member
    rw [stateColor, (marks.marked lane.signalIndex).mpr lit]
  obtain ⟨lane, member⟩ := List.exists_mem_of_ne_nil _ hasLanes
  rw [Schedule.get?_edgeColors active]
  constructor
  · exact List.mem_map.mpr ⟨lane, member, ofMark lane member⟩
  · intro other shown
    obtain ⟨otherLane, otherMember, rfl⟩ := List.mem_map.mp shown
    exact Nat.le_of_eq (congrArg Color.priority (ofMark otherLane otherMember))

/-- While the signals of an axis are marked, an edge that is not red has a lane with such a
signal. -/
theorem exists_isLit (marks : MarksAxis connections directions fallback northSouth mark state)
    (active : schedule.stateAt? time = some state)
    (passage : ShowsPassage (schedule.edgeColors time connections) edge) :
    ∃ lane ∈ edgeLanes connections edge,
      IsLit connections directions northSouth lane.signalIndex := by
  obtain ⟨color, found, notRed⟩ := passage
  obtain ⟨shown, -⟩ := (Schedule.get?_edgeColors active connections edge color).mp found
  obtain ⟨lane, member, rfl⟩ := List.mem_map.mp shown
  refine ⟨lane, member, Decidable.byContradiction fun notLit => notRed ?_⟩
  obtain ⟨inConnections, external, -⟩ := mem_edgeLanes.mp member
  rw [stateColor, marks.red _ (marks.inside lane inConnections external) notLit]
  rfl

/-- While the signals of one axis are marked, edges of both axes are not red only if the two
share a signal. -/
theorem sharesSignal (marks : MarksAxis connections directions fallback northSouth mark state)
    (active : schedule.stateAt? time = some state) {northSouthEdge eastWestEdge : String}
    (leadsNorthSouth : LeadsFromAxis directions true northSouthEdge)
    (leadsEastWest : LeadsFromAxis directions false eastWestEdge)
    (passesNorthSouth : ShowsPassage (schedule.edgeColors time connections) northSouthEdge)
    (passesEastWest : ShowsPassage (schedule.edgeColors time connections) eastWestEdge) :
    SharesSignal connections directions := by
  cases northSouth with
  | true =>
      obtain ⟨lane, member, lit⟩ := marks.exists_isLit active passesEastWest
      exact ⟨lane.signalIndex, lit, isLit_of_mem_edgeLanes leadsEastWest member⟩
  | false =>
      obtain ⟨lane, member, lit⟩ := marks.exists_isLit active passesNorthSouth
      exact ⟨lane.signalIndex, isLit_of_mem_edgeLanes leadsNorthSouth member, lit⟩

end MarksAxis

/-! ## The whole cycle -/

/-- What a schedule of four phases shows to the edges of the two axes at a time. -/
structure ProtectsAxes (connections : List LaneConnection) (directions : Directions)
    (schedule : Schedule α) (time : α) : Prop where
  /-- One of the four phases is active. -/
  active : schedule.activePhase time < 4
  northSouthGreen : schedule.activePhase time = 0 →
    AxisShows connections directions (schedule.edgeColors time connections) true .green
  northSouthYellow : schedule.activePhase time = 1 →
    AxisShows connections directions (schedule.edgeColors time connections) true .yellow
  eastWestGreen : schedule.activePhase time = 2 →
    AxisShows connections directions (schedule.edgeColors time connections) false .green
  eastWestYellow : schedule.activePhase time = 3 →
    AxisShows connections directions (schedule.edgeColors time connections) false .yellow
  /-- Edges of both axes are not red only if the axes share a signal. -/
  apart : ∀ northSouthEdge eastWestEdge,
    LeadsFromAxis directions true northSouthEdge →
    LeadsFromAxis directions false eastWestEdge →
    ShowsPassage (schedule.edgeColors time connections) northSouthEdge →
    ShowsPassage (schedule.edgeColors time connections) eastWestEdge →
    SharesSignal connections directions

/-- Four phases of which the first two mark one axis and the last two the other protect the axes
at every time. -/
theorem protectsAxes_of_marksAxis {first second third last : Phase α}
    (marksFirst : MarksAxis connections directions fallback true 'G' first.state)
    (marksSecond : MarksAxis connections directions fallback true 'y' second.state)
    (marksThird : MarksAxis connections directions fallback false 'G' third.state)
    (marksLast : MarksAxis connections directions fallback false 'y' last.state) (time : α) :
    ProtectsAxes connections directions (.ofPhases [first, second, third, last]) time := by
  have shown := Schedule.stateAt?_ofPhases first [second, third, last] time
  constructor
  · exact Schedule.activePhase_ofPhases_lt first [second, third, last] time
  · intro isFirst
    rw [isFirst] at shown
    exact marksFirst.axisShows shown
  · intro isSecond
    rw [isSecond] at shown
    exact marksSecond.axisShows shown
  · intro isThird
    rw [isThird] at shown
    exact marksThird.axisShows shown
  · intro isLast
    rw [isLast] at shown
    exact marksLast.axisShows shown
  · intro northSouthEdge eastWestEdge leadsNorthSouth leadsEastWest passesNorthSouth passesEastWest
    -- Which phase is active does not matter: each of them marks one of the axes.
    obtain ⟨phase, member, active⟩ :=
      Schedule.exists_stateAt?_ofPhases first [second, third, last] time
    have marks : ∃ northSouth mark,
        MarksAxis connections directions fallback northSouth mark phase.state := by
      simp only [List.mem_cons, List.not_mem_nil, or_false] at member
      rcases member with rfl | rfl | rfl | rfl
      · exact ⟨true, 'G', marksFirst⟩
      · exact ⟨true, 'y', marksSecond⟩
      · exact ⟨false, 'G', marksThird⟩
      · exact ⟨false, 'y', marksLast⟩
    obtain ⟨northSouth, mark, marks⟩ := marks
    exact marks.sharesSignal active leadsNorthSouth leadsEastWest passesNorthSouth passesEastWest

/-- **The standard cycle keeps the axes apart.**  As long as its states can be held, a standard
cycle has four phases with the set durations, whose states mark the two axes in turn; and at every
time the edges of the marked axis have the color of the phase, while edges of both axes are not
red only if the axes share a signal. -/
theorem phases_protect_axes (connections : List LaneConnection) (directions : Directions)
    (timing : CycleTiming α)
    (holds : stateLength connections timing.fallbackStateLength < stateLimit) :
    ∃ northSouthGreen northSouthYellow eastWestGreen eastWestYellow : String,
      let fallback := timing.fallbackStateLength
      let cycle : List (Phase α) :=
        [ ⟨timing.northSouthGreen, northSouthGreen⟩, ⟨timing.northSouthYellow, northSouthYellow⟩,
          ⟨timing.eastWestGreen, eastWestGreen⟩, ⟨timing.eastWestYellow, eastWestYellow⟩ ]
      phases connections directions timing = .ok cycle ∧
        MarksAxis connections directions fallback true 'G' northSouthGreen ∧
        MarksAxis connections directions fallback true 'y' northSouthYellow ∧
        MarksAxis connections directions fallback false 'G' eastWestGreen ∧
        MarksAxis connections directions fallback false 'y' eastWestYellow ∧
        ∀ time, ProtectsAxes connections directions (.ofPhases cycle) time := by
  have marks (northSouth : Bool) {mark : Char} (notRed : mark ≠ 'r') :=
    marksAxis_axisState connections directions timing.fallbackStateLength northSouth notRed
  have green : 'G' ≠ 'r' := by decide
  have yellow : 'y' ≠ 'r' := by decide
  refine ⟨_, _, _, _, phases_eq directions holds, marks true green, marks true yellow,
    marks false green, marks false yellow, ?_⟩
  exact protectsAxes_of_marksAxis (marks true green) (marks true yellow) (marks false green)
    (marks false yellow)

/-- Two roads that cross and share no signal are never both shown a color other than red. -/
theorem phases_protect_axes_two_roads :
    let connections : List LaneConnection :=
      [⟨"in_n", "out_s", 0, 0, 0⟩, ⟨"in_e", "out_w", 0, 0, 1⟩, ⟨":inner", "out_w", 0, 0, 7⟩]
    let directions : Directions := [("in_e", .east), ("in_n", .north)]
    let timing : CycleTiming Rat := .standard
    stateLength connections timing.fallbackStateLength < stateLimit ∧
      ∃ cycle, phases connections directions timing = .ok cycle ∧
        ∀ time,
          let colors := (Schedule.ofPhases cycle).edgeColors time connections
          ¬ (ShowsPassage colors "in_n" ∧ ShowsPassage colors "in_e") := by
  intro connections directions timing
  have holds : stateLength connections timing.fallbackStateLength < stateLimit := by decide
  obtain ⟨_, _, _, _, built, -, -, -, -, protects⟩ :=
    phases_protect_axes connections directions timing holds
  have apart : ¬ SharesSignal connections directions := by
    rintro ⟨index, northSouth, eastWest⟩
    have isFirst : index ∈ [0] := mem_litIndices.mpr northSouth
    have isSecond : index ∈ [1] := mem_litIndices.mpr eastWest
    rw [List.mem_singleton] at isFirst isSecond
    exact absurd (isFirst.symm.trans isSecond) (by decide)
  refine ⟨holds, _, built, fun time ⟨northSouth, eastWest⟩ => apart ?_⟩
  exact (protects time).apart "in_n" "in_e" ⟨.north, rfl, .north⟩ ⟨.east, rfl, .east⟩ northSouth
    eastWest

end Colors

end StandardCycle

end JunctionReplay
