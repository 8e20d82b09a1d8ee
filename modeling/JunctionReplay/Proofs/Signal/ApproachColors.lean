import JunctionReplay.Proofs.Signal.EdgeColors
import JunctionReplay.Scalar.Machine

/-!
# Colors of approaches

A side of the intersection is shown the color of one of its edges.  Among the lanes of an edge the
highest color counts, but of several edges the last one in the order of their ids is taken as it
is.  So a side shows the highest color of all of its lanes only as long as no lane of an earlier
edge exceeds the lanes of the last one.

## Main Statements

* `Schedule.get?_approachColors` — a side shows the highest color of its last edge.
* `Schedule.approachColors_highest_iff` — when that is the highest color of all its lanes.
* `Schedule.approachColors_miss_green` — two edges of one side, of which the first one is green
  and the side is shown red.
-/

namespace JunctionReplay

/-- The lanes that lead into the intersection from a side. -/
def approachLanes (connections : List LaneConnection) (directions : Directions)
    (approach : Approach) : List LaneConnection :=
  (connections.filter LaneConnection.isExternal).filter fun lane =>
    directions.get? lane.fromEdge = some approach

theorem mem_approachLanes {connections : List LaneConnection} {directions : Directions}
    {approach : Approach} {lane : LaneConnection} :
    lane ∈ approachLanes connections directions approach ↔
      lane ∈ connections ∧ lane.isExternal ∧
        directions.get? lane.fromEdge = some approach := by
  rw [approachLanes, List.mem_filter, List.mem_filter, decide_eq_true_iff, and_assoc]

/-- An edge is that of one of the lanes, and none of them starts on a later edge. -/
def IsLastEdge (edge : String) (lanes : List LaneConnection) : Prop :=
  (∃ lane ∈ lanes, lane.fromEdge = edge) ∧ ∀ lane ∈ lanes, ¬ edge < lane.fromEdge

/-- Each of the lanes is reached in priority by one that starts on the last edge. -/
def LastEdgeReaches (state : List Char) (lanes : List LaneConnection) : Prop :=
  ∀ lane ∈ lanes, ∃ last ∈ lanes,
    IsLastEdge last.fromEdge lanes ∧
      (stateColor state lane.signalIndex).priority ≤
        (stateColor state last.signalIndex).priority

instance (edge : String) (lanes : List LaneConnection) : Decidable (IsLastEdge edge lanes) :=
  inferInstanceAs (Decidable (_ ∧ _))

instance (state : List Char) (lanes : List LaneConnection) :
    Decidable (LastEdgeReaches state lanes) :=
  inferInstanceAs (Decidable (∀ lane ∈ lanes, ∃ last ∈ lanes, _ ∧ _))

theorem IsLastEdge.unique {first second : String} {lanes : List LaneConnection}
    (isFirst : IsLastEdge first lanes) (isSecond : IsLastEdge second lanes) : first = second := by
  obtain ⟨firstLane, firstMember, rfl⟩ := isFirst.1
  obtain ⟨secondLane, secondMember, rfl⟩ := isSecond.1
  rcases Std.lt_trichotomy firstLane.fromEdge secondLane.fromEdge with below | same | above
  · exact absurd below (isFirst.2 secondLane secondMember)
  · exact same
  · exact absurd above (isSecond.2 firstLane firstMember)

/-- As soon as there are lanes, one of them starts on the last edge. -/
theorem exists_isLastEdge {lanes : List LaneConnection} (nonempty : lanes ≠ []) :
    ∃ edge, IsLastEdge edge lanes := by
  induction lanes with
  | nil => exact absurd rfl nonempty
  | cons lane rest ih =>
      by_cases empty : rest = []
      · subst empty
        refine ⟨lane.fromEdge, ⟨lane, List.mem_cons_self, rfl⟩, fun other member => ?_⟩
        obtain rfl := List.mem_singleton.mp member
        exact String.lt_irrefl _
      · obtain ⟨edge, ⟨last, lastMember, lastEdge⟩, greatest⟩ := ih empty
        by_cases above : edge < lane.fromEdge
        · refine ⟨lane.fromEdge, ⟨lane, List.mem_cons_self, rfl⟩, fun other member => ?_⟩
          rcases List.mem_cons.mp member with rfl | member
          · exact String.lt_irrefl _
          · intro below
            exact greatest other member (String.lt_trans above below)
        · refine ⟨edge, ⟨last, List.mem_cons_of_mem _ lastMember, lastEdge⟩,
            fun other member => ?_⟩
          rcases List.mem_cons.mp member with rfl | member
          · exact above
          · exact greatest other member

/-- The lanes of an edge are those lanes of its side that start on it. -/
theorem filter_approachLanes {connections : List LaneConnection} {directions : Directions}
    {approach : Approach} {edge : String} (leads : directions.get? edge = some approach) :
    (approachLanes connections directions approach).filter (fun lane => lane.fromEdge = edge) =
      edgeLanes connections edge := by
  rw [approachLanes, edgeLanes, List.filter_filter]
  refine List.filter_congr fun lane _ => ?_
  by_cases same : lane.fromEdge = edge <;> simp [same, leads]

namespace Schedule

variable {α : Type} [Scalar α]

/-- A side shows the color of the last of its edges, which is the highest among the lanes of that
edge. -/
theorem get?_approachColors {schedule : Schedule α} {time : α} {state : String}
    (active : schedule.stateAt? time = some state) (connections : List LaneConnection)
    (directions : Directions) (approach : Approach) (color : Color) :
    (schedule.approachColors time connections directions).get? approach = some color ↔
      ∃ edge, IsLastEdge edge (approachLanes connections directions approach) ∧
        color.IsHighest (shownColors state.toList
          ((approachLanes connections directions approach).filter fun lane =>
            lane.fromEdge = edge)) := by
  -- The entries of the side's edges are in the order of their ids, so the one that is entered last
  -- is that of the last edge.
  have entriesSorted := (sorted_edgeColors schedule time connections).filter
    fun entry => decide (directions.get? entry.1 = some approach)
  rw [approachColors, Keyed.get?_relabel _ fun edge => directions.get? edge,
    Option.map_eq_some_iff]
  constructor
  · rintro ⟨⟨edge, color⟩, last, rfl⟩
    obtain ⟨member, greatest⟩ := (entriesSorted.getLast?_eq_some_iff _).mp last
    obtain ⟨member, leads⟩ := List.mem_filter.mp member
    have leads := of_decide_eq_true leads
    obtain ⟨lane, ofEdge⟩ := (exists_mem_edgeColors active connections edge).mp ⟨color, member⟩
    refine ⟨edge, ⟨⟨lane, ?_, (mem_edgeLanes.mp ofEdge).2.2⟩, fun other otherMember => ?_⟩, ?_⟩
    · rw [← filter_approachLanes leads] at ofEdge
      exact (List.mem_filter.mp ofEdge).1
    · obtain ⟨otherIn, external, otherLeads⟩ := mem_approachLanes.mp otherMember
      obtain ⟨otherColor, otherEntry⟩ :=
        (exists_mem_edgeColors active connections other.fromEdge).mpr
          ⟨other, mem_edgeLanes.mpr ⟨otherIn, external, rfl⟩⟩
      exact greatest _ (List.mem_filter.mpr ⟨otherEntry, decide_eq_true otherLeads⟩)
    · rw [filter_approachLanes leads]
      exact (mem_edgeColors active connections edge color).mp member
  · rintro ⟨edge, ⟨⟨lane, laneMember, rfl⟩, greatest⟩, highest⟩
    have leads := (mem_approachLanes.mp laneMember).2.2
    rw [filter_approachLanes leads] at highest
    refine ⟨(lane.fromEdge, color), (entriesSorted.getLast?_eq_some_iff _).mpr ⟨?_, ?_⟩, rfl⟩
    · exact List.mem_filter.mpr
        ⟨(mem_edgeColors active connections _ color).mpr highest, decide_eq_true leads⟩
    · rintro ⟨otherEdge, otherColor⟩ otherMember
      obtain ⟨otherEntry, otherLeads⟩ := List.mem_filter.mp otherMember
      obtain ⟨other, ofOther⟩ :=
        (exists_mem_edgeColors active connections otherEdge).mp ⟨otherColor, otherEntry⟩
      rw [← filter_approachLanes (of_decide_eq_true otherLeads)] at ofOther
      obtain ⟨otherLane, onOther⟩ := List.mem_filter.mp ofOther
      rw [← of_decide_eq_true onOther]
      exact greatest other otherLane

/-- A side shows some color exactly if lanes lead in from it. -/
theorem exists_approachColor {schedule : Schedule α} {time : α} {state : String}
    (active : schedule.stateAt? time = some state) (connections : List LaneConnection)
    (directions : Directions) (approach : Approach) :
    (∃ color, (schedule.approachColors time connections directions).get? approach = some color) ↔
      approachLanes connections directions approach ≠ [] := by
  simp only [get?_approachColors active]
  constructor
  · rintro ⟨color, edge, ⟨⟨lane, member, -⟩, -⟩, -⟩
    exact List.ne_nil_of_mem member
  · intro nonempty
    obtain ⟨edge, ⟨lane, member, onEdge⟩, greatest⟩ := exists_isLastEdge nonempty
    have ofEdge : lane ∈ (approachLanes connections directions approach).filter fun lane =>
        lane.fromEdge = edge := List.mem_filter.mpr ⟨member, decide_eq_true onEdge⟩
    obtain ⟨color, highest⟩ := Color.exists_isHighest
      (List.ne_nil_of_mem (List.mem_map_of_mem ofEdge))
    exact ⟨color, edge, ⟨⟨lane, member, onEdge⟩, greatest⟩, highest⟩

/-- A side shows nothing exactly if no lanes lead in from it. -/
theorem approachColors_eq_none_iff {schedule : Schedule α} {time : α} {state : String}
    (active : schedule.stateAt? time = some state) (connections : List LaneConnection)
    (directions : Directions) (approach : Approach) :
    (schedule.approachColors time connections directions).get? approach = none ↔
      approachLanes connections directions approach = [] := by
  have shows := exists_approachColor active connections directions approach
  rw [← Option.ne_none_iff_exists'] at shows
  exact Decidable.not_iff_not.mp shows

/-- The color that a side shows is the highest of all its lanes if no lane exceeds those of the
last edge. -/
theorem isHighest_of_lastEdgeReaches {schedule : Schedule α} {time : α} {state : String}
    (active : schedule.stateAt? time = some state) {connections : List LaneConnection}
    {directions : Directions} {approach : Approach} {color : Color}
    (reaches : LastEdgeReaches state.toList (approachLanes connections directions approach))
    (present :
      (schedule.approachColors time connections directions).get? approach = some color) :
    color.IsHighest
      (shownColors state.toList (approachLanes connections directions approach)) := by
  obtain ⟨edge, last, ofLast⟩ :=
    (get?_approachColors active connections directions approach color).mp present
  refine ⟨?_, fun other otherShown => ?_⟩
  · obtain ⟨lane, member, rfl⟩ := List.mem_map.mp ofLast.1
    exact List.mem_map_of_mem (List.mem_filter.mp member).1
  · obtain ⟨lane, member, rfl⟩ := List.mem_map.mp otherShown
    obtain ⟨lastLane, lastMember, isLast, le⟩ := reaches lane member
    have onEdge : lastLane.fromEdge = edge := isLast.unique last
    refine Nat.le_trans le (ofLast.2 _ (List.mem_map_of_mem ?_))
    exact List.mem_filter.mpr ⟨lastMember, decide_eq_true onEdge⟩

/-- If the color that a side shows is the highest of all its lanes, then no lane exceeds those of
the last edge. -/
theorem lastEdgeReaches_of_isHighest {schedule : Schedule α} {time : α} {state : String}
    (active : schedule.stateAt? time = some state) {connections : List LaneConnection}
    {directions : Directions} {approach : Approach} {color : Color}
    (present :
      (schedule.approachColors time connections directions).get? approach = some color)
    (highest : color.IsHighest
      (shownColors state.toList (approachLanes connections directions approach))) :
    LastEdgeReaches state.toList (approachLanes connections directions approach) := by
  obtain ⟨edge, last, ofLast⟩ :=
    (get?_approachColors active connections directions approach color).mp present
  obtain ⟨lastLane, lastMember, rfl⟩ := List.mem_map.mp ofLast.1
  obtain ⟨inLanes, onEdge⟩ := List.mem_filter.mp lastMember
  have onEdge := of_decide_eq_true onEdge
  intro lane member
  exact ⟨lastLane, inLanes, onEdge ▸ last, highest.2 _ (List.mem_map_of_mem member)⟩

/-- **What a side shows, and when it is the highest color of all its lanes.**  A side without
lanes shows nothing.  Any other side shows the highest color among the lanes of its last edge,
which is the highest color among all of its lanes exactly if no lane exceeds those of the last
edge. -/
theorem approachColors_highest_iff {schedule : Schedule α} {time : α} {state : String}
    (active : schedule.stateAt? time = some state) (connections : List LaneConnection)
    (directions : Directions) (approach : Approach) :
    let lanes := approachLanes connections directions approach
    let shown := (schedule.approachColors time connections directions).get? approach
    (shown = none ↔ lanes = []) ∧
      (∀ color, shown = some color ↔
        ∃ edge, IsLastEdge edge lanes ∧
          color.IsHighest
            (shownColors state.toList (lanes.filter fun lane => lane.fromEdge = edge))) ∧
      ((∀ color, shown = some color ↔ color.IsHighest (shownColors state.toList lanes)) ↔
        LastEdgeReaches state.toList lanes) := by
  intro lanes shown
  refine ⟨approachColors_eq_none_iff active connections directions approach,
    get?_approachColors active connections directions approach, fun agrees => ?_,
    fun reaches color => ⟨isHighest_of_lastEdgeReaches active reaches, fun highest => ?_⟩⟩
  · intro lane member
    obtain ⟨color, present⟩ :=
      (exists_approachColor active connections directions approach).mpr
        (List.ne_nil_of_mem member)
    exact lastEdgeReaches_of_isHighest active present ((agrees color).mp present) lane member
  · obtain ⟨lane, member, -⟩ := List.mem_map.mp highest.1
    obtain ⟨other, present⟩ :=
      (exists_approachColor active connections directions approach).mpr
        (List.ne_nil_of_mem member)
    -- The side shows the highest of all colors, and there is only one.
    have otherHighest := isHighest_of_lastEdgeReaches active reaches present
    rw [← otherHighest.unique highest]
    exact present

/-- A red edge in front of a green one does not keep the side from being shown green. -/
theorem approachColors_highest_iff_green_last :
    let schedule : Schedule Float := .ofPhases [⟨10.0, "Gr"⟩]
    let connections : List LaneConnection :=
      [⟨"in_b", "out", 0, 0, 0⟩, ⟨"in_a", "out", 0, 0, 1⟩]
    let directions : Directions := [("in_a", .north), ("in_b", .north)]
    schedule.stateAt? 2.0 = some "Gr" ∧
      ∀ color,
        (schedule.approachColors 2.0 connections directions).get? .north = some color ↔
          color.IsHighest
            (shownColors "Gr".toList (approachLanes connections directions .north)) := by
  intro schedule connections directions
  have active : schedule.stateAt? 2.0 = some "Gr" := by decide
  have reaches : LastEdgeReaches "Gr".toList (approachLanes connections directions .north) := by
    decide
  exact ⟨active,
    (approachColors_highest_iff active connections directions .north).2.2.mpr reaches⟩

/-- **One green lane is not enough.**  Of two edges that lead in from the north, the first one is
green and the second one red; the side is shown red, though green is the highest of its
colors. -/
theorem approachColors_miss_green :
    let schedule : Schedule Float := .ofPhases [⟨10.0, "Gr"⟩]
    let connections : List LaneConnection :=
      [⟨"in_a", "out", 0, 0, 0⟩, ⟨"in_b", "out", 0, 0, 1⟩]
    let directions : Directions := [("in_a", .north), ("in_b", .north)]
    schedule.stateAt? 2.0 = some "Gr" ∧
      (schedule.approachColors 2.0 connections directions).get? .north = some .red ∧
      Color.green.IsHighest
        (shownColors "Gr".toList (approachLanes connections directions .north)) := by
  decide

end Schedule

end JunctionReplay
