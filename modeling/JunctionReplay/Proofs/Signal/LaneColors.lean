import JunctionReplay.Proofs.Signal.EdgeColors
import JunctionReplay.Proofs.Signal.Schedule
import JunctionReplay.Scalar.Machine

/-!
# Colors by the marks of lanes

Each lane reads one character of the active state, at the place of its signal index, or none if the
state ends before that place.  Three questions are then enough for the color of an edge: whether one
of its lanes reads a mark for green, if not whether one reads a mark for yellow, and else it is red.
A lane that reads nothing, or something else, does not count for the first two.

No answer depends on the order of the lanes, nor on how often one of them is listed.

## Main Definitions

* `LaneConnection.Reads` — a lane reads one of several marks.
* `Color.ofLanes` — the color that several lanes give their edge.

## Main Statements

* `Color.isHighest_iff` — the highest of several colors, by which colors there are.
* `Schedule.edgeColors_eq_nil` — without entries no edge has a color.
* `Schedule.edgeColors_congr` — only which lanes there are counts.
* `Schedule.edgeColors_follow_lanes` — the whole table of edge colors.
-/

namespace JunctionReplay

/-! ## The marks of lanes -/

namespace LaneConnection

variable {lane : LaneConnection} {state : String} {marks : List Char}

/-- The lane reads one of the marks in a state, at the character with its signal index. -/
def Reads (lane : LaneConnection) (state : String) (marks : List Char) : Prop :=
  ∃ mark ∈ marks, state.toList[lane.signalIndex]? = some mark

instance (lane : LaneConnection) (state : String) (marks : List Char) :
    Decidable (lane.Reads state marks) :=
  inferInstanceAs (Decidable (∃ mark ∈ marks, _ = some mark))

/-- Past the end of a state a lane reads nothing. -/
theorem not_reads_of_length_le (past : state.length ≤ lane.signalIndex) :
    ¬ lane.Reads state marks := by
  rintro ⟨mark, -, read⟩
  rw [List.getElem?_eq_none (by rwa [String.length_toList])] at read
  cases read

end LaneConnection

namespace Color

/-- The marks for green. -/
def greenMarks : List Char := ['g', 'G']

/-- The marks for yellow, or for red and yellow together. -/
def yellowMarks : List Char := ['y', 'Y', 'u', 'U']

/-- The color that lanes give their edge in a state. -/
def ofLanes (state : String) (lanes : List LaneConnection) : Color :=
  if ∃ lane ∈ lanes, lane.Reads state greenMarks then green
  else if ∃ lane ∈ lanes, lane.Reads state yellowMarks then yellow
  else red

variable {color : Color} {colors : List Color} {state : String}
  {lanes : List LaneConnection} {mark : Char}

theorem ofStateChar_eq_green_iff : ofStateChar mark = green ↔ mark ∈ greenMarks := by
  unfold ofStateChar greenMarks
  split
  next isGreen => simpa using isGreen
  next notGreen => split <;> simpa using notGreen

theorem ofStateChar_eq_yellow_iff : ofStateChar mark = yellow ↔ mark ∈ yellowMarks := by
  unfold ofStateChar yellowMarks
  split
  next isGreen => rcases isGreen with rfl | rfl <;> decide
  next =>
    split
    next isYellow => simpa using isYellow
    next notYellow => simpa using notYellow

/-- A lane is shown a color other than red where it reads a mark for the color. -/
theorem stateColor_eq_iff {marks : List Char} (notRed : color ≠ red)
    (marked : ∀ {mark}, ofStateChar mark = color ↔ mark ∈ marks) {lane : LaneConnection} :
    stateColor state.toList lane.signalIndex = color ↔ lane.Reads state marks := by
  unfold stateColor LaneConnection.Reads
  cases state.toList[lane.signalIndex]? with
  | none => simpa using notRed.symm
  | some mark => simpa using marked

/-! ## The highest color -/

/-- The highest of several colors is green if that is one of them, else yellow if that is, and else
red. -/
theorem isHighest_iff (nonempty : colors ≠ []) :
    color.IsHighest colors ↔
      color = if green ∈ colors then green else if yellow ∈ colors then yellow else red := by
  -- There is only one highest color, so it is enough that this one is.
  have highest :
      (if green ∈ colors then green else if yellow ∈ colors then yellow else red).IsHighest
        colors := by
    split
    next hasGreen => exact ⟨hasGreen, fun other _ => by cases other <;> decide⟩
    next noGreen =>
      split
      next hasYellow =>
        refine ⟨hasYellow, fun other member => ?_⟩
        cases other with
        | green => exact absurd member noGreen
        | yellow | red => decide
      next noYellow =>
        have allRed : ∀ other ∈ colors, other = red := by
          intro other member
          cases other with
          | green => exact absurd member noGreen
          | yellow => exact absurd member noYellow
          | red => rfl
        obtain ⟨first, member⟩ := List.exists_mem_of_ne_nil _ nonempty
        exact ⟨allRed first member ▸ member, fun other listed =>
          Nat.le_of_eq (congrArg priority (allRed other listed))⟩
  exact ⟨fun isHighest => isHighest.unique highest, fun same => same ▸ highest⟩

/-- The highest color that lanes are shown is the one that they give their edge. -/
theorem isHighest_shownColors_iff (nonempty : lanes ≠ []) :
    color.IsHighest (shownColors state.toList lanes) ↔ color = ofLanes state lanes := by
  have shown : shownColors state.toList lanes ≠ [] := mt List.map_eq_nil_iff.mp nonempty
  have isGreen (lane : LaneConnection) :
      stateColor state.toList lane.signalIndex = green ↔ lane.Reads state greenMarks :=
    stateColor_eq_iff (by decide) ofStateChar_eq_green_iff
  have isYellow (lane : LaneConnection) :
      stateColor state.toList lane.signalIndex = yellow ↔ lane.Reads state yellowMarks :=
    stateColor_eq_iff (by decide) ofStateChar_eq_yellow_iff
  rw [isHighest_iff shown]
  simp only [shownColors, List.mem_map, isGreen, isYellow, ofLanes]

end Color

/-! ## The colors of a schedule -/

namespace Schedule

variable {α : Type} [Scalar α] {schedule : Schedule α} {time : α} {state : String}
  {connections others : List LaneConnection}

theorem edgeColors_eq_nil (empty : schedule.entries = []) (time : α)
    (connections : List LaneConnection) : schedule.edgeColors time connections = [] := by
  simp [edgeColors, stateAt?, empty]

/-- A schedule with entries always shows a state. -/
theorem exists_stateAt? (nonempty : schedule.entries ≠ []) (time : α) :
    ∃ state, schedule.stateAt? time = some state := by
  have within := schedule.activePlace_lt nonempty time
  rw [stateAt?, List.getElem?_eq_getElem within]
  exact ⟨_, rfl⟩

/-- An edge has the color that its lanes give it, and none without lanes. -/
theorem mem_edgeColors_iff_ofLanes (active : schedule.stateAt? time = some state)
    (edge : String) (color : Color) :
    (edge, color) ∈ schedule.edgeColors time connections ↔
      edgeLanes connections edge ≠ [] ∧
        color = Color.ofLanes state (edgeLanes connections edge) := by
  rw [mem_edgeColors active]
  constructor
  · intro isHighest
    have nonempty : edgeLanes connections edge ≠ [] := by
      intro empty
      rw [empty] at isHighest
      cases isHighest.1
    exact ⟨nonempty, (Color.isHighest_shownColors_iff nonempty).mp isHighest⟩
  · rintro ⟨nonempty, same⟩
    exact (Color.isHighest_shownColors_iff nonempty).mpr same

/-- Only which lanes there are counts, neither their order nor how often one is listed. -/
theorem edgeColors_congr (same : ∀ lane, lane ∈ others ↔ lane ∈ connections) :
    schedule.edgeColors time others = schedule.edgeColors time connections := by
  cases active : schedule.stateAt? time with
  | none => simp only [edgeColors, active]
  | some state =>
      refine (sorted_edgeColors schedule time others).ext
        (sorted_edgeColors schedule time connections) fun edge => ?_
      ext color
      rw [get?_edgeColors active, get?_edgeColors active]
      refine Color.isHighest_congr fun shown => ?_
      simp only [shownColors, List.mem_map, mem_edgeLanes, same]

/-- **The colors of edges.**  A schedule without entries gives no edge a color.  With entries it
shows a state at every time, and then exactly the edges on which a lane leads into the intersection
have a color, one each and in the order of their ids: the color that the marks of these lanes give
them.  A lane whose signal index is past the last character of the state reads no mark at all.

In neither case does it matter in which order the lanes are listed, or how often. -/
theorem edgeColors_follow_lanes (schedule : Schedule α) (time : α)
    (connections : List LaneConnection) :
    (schedule.entries = [] → schedule.edgeColors time connections = []) ∧
    (schedule.entries ≠ [] → ∃ state, schedule.stateAt? time = some state ∧
      Keyed.Sorted (schedule.edgeColors time connections) ∧
      (∀ edge, (∃ color, (edge, color) ∈ schedule.edgeColors time connections) ↔
        ∃ lane ∈ connections, lane.isExternal ∧ lane.fromEdge = edge) ∧
      (∀ edge color, (edge, color) ∈ schedule.edgeColors time connections →
        color = Color.ofLanes state (edgeLanes connections edge)) ∧
      ∀ lane : LaneConnection, state.length ≤ lane.signalIndex →
        ∀ marks, ¬ lane.Reads state marks) ∧
    ∀ others, (∀ lane, lane ∈ others ↔ lane ∈ connections) →
      schedule.edgeColors time others = schedule.edgeColors time connections := by
  refine ⟨fun empty => edgeColors_eq_nil empty time connections, ?_, fun _ => edgeColors_congr⟩
  intro nonempty
  obtain ⟨state, active⟩ := exists_stateAt? nonempty time
  refine ⟨state, active, sorted_edgeColors schedule time connections, ?_, ?_, ?_⟩
  · intro edge
    simpa only [mem_edgeLanes] using exists_mem_edgeColors active connections edge
  · intro edge color member
    exact ((mem_edgeColors_iff_ofLanes active edge color).mp member).2
  · intro lane past marks
    exact LaneConnection.not_reads_of_length_le past

/-- Lanes that read yellow, red and green, and one past the end of a state that is longer in bytes;
an inner lane is passed over.  The lanes are listed a second time the other way around. -/
theorem edgeColors_follow_lanes_five_lanes :
    let schedule : Schedule Float := .ofPhases [⟨10.0, "äurG"⟩]
    let connections : List LaneConnection :=
      [⟨"c", "d", 0, 0, 4⟩, ⟨"a", "d", 0, 0, 2⟩, ⟨"b", "d", 0, 0, 3⟩, ⟨"a", "d", 1, 0, 1⟩,
        ⟨":b", "d", 0, 0, 3⟩]
    schedule.entries ≠ [] ∧
      schedule.edgeColors Machine.infinity (connections.reverse ++ connections) =
        schedule.edgeColors Machine.infinity connections ∧
      ∃ state, schedule.stateAt? Machine.infinity = some state ∧ state = "äurG" ∧
        schedule.edgeColors Machine.infinity connections =
          [("a", .yellow), ("b", .green), ("c", .red)] ∧
        Color.ofLanes state (edgeLanes connections "a") = .yellow ∧
        ¬ LaneConnection.Reads ⟨"c", "d", 0, 0, 4⟩ state Color.greenMarks := by
  intro schedule connections
  have nonempty : schedule.entries ≠ [] := by decide
  obtain ⟨-, shown, congr⟩ := edgeColors_follow_lanes schedule Machine.infinity connections
  obtain ⟨state, active, -, -, follow, past⟩ := shown nonempty
  have same := congr (connections.reverse ++ connections) fun lane => by simp
  have isState : schedule.stateAt? Machine.infinity = some "äurG" := by decide +kernel
  obtain rfl : state = "äurG" := Option.some.inj (active.symm.trans isState)
  have table : schedule.edgeColors Machine.infinity connections =
      [("a", .yellow), ("b", .green), ("c", .red)] := by decide +kernel
  have ofLanes := follow "a" .yellow (table ▸ List.mem_cons_self)
  exact ⟨nonempty, same, _, active, rfl, table, ofLanes.symm, past _ (by decide +kernel) _⟩

end Schedule

end JunctionReplay
