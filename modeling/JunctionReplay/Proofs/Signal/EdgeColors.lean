import JunctionReplay.Proofs.Keyed
import JunctionReplay.Signal.Resolve

/-!
# Colors of edges

The lanes of an edge are entered one after the other, and the edge keeps a color until a lane of
higher priority comes.  What is left in the end does not depend on the order: it is the color of
the highest priority among the lanes, which is unique because no two colors share a priority.

## Main Statements

* `Color.IsHighest` — a color of the highest priority among several; there is exactly one.
* `get?_foldl_enterLane` — entering lanes into any table leaves the highest color of each edge.
* `Schedule.get?_edgeColors` — the color of an edge is the highest among its lanes.
* `Schedule.sorted_edgeColors` — the edges are in the order of their ids.
-/

namespace JunctionReplay

/-! ## The highest of several colors -/

namespace Color

/-- A color is one of several, and none of them has a higher priority. -/
def IsHighest (color : Color) (colors : List Color) : Prop :=
  color ∈ colors ∧ ∀ other ∈ colors, other.priority ≤ color.priority

instance (color : Color) (colors : List Color) : Decidable (color.IsHighest colors) :=
  inferInstanceAs (Decidable (_ ∧ _))

variable {color first second : Color} {colors others : List Color}

/-- No two colors share a priority. -/
theorem eq_of_priority_eq (same : first.priority = second.priority) : first = second := by
  cases first <;> cases second <;> first | rfl | cases same

/-- There is at most one highest color. -/
theorem IsHighest.unique (isFirst : first.IsHighest colors) (isSecond : second.IsHighest colors) :
    first = second := by
  have firstLe := isSecond.2 first isFirst.1
  have secondLe := isFirst.2 second isSecond.1
  exact eq_of_priority_eq (Nat.le_antisymm firstLe secondLe)

/-- Which color is the highest depends only on which colors there are. -/
theorem isHighest_congr (same : ∀ shown, shown ∈ colors ↔ shown ∈ others) :
    color.IsHighest colors ↔ color.IsHighest others := by
  simp only [IsHighest, same]

theorem isHighest_singleton : color.IsHighest [first] ↔ first = color := by
  constructor
  · rintro ⟨member, -⟩
    exact (List.mem_singleton.mp member).symm
  · rintro rfl
    exact ⟨List.mem_cons_self, by simp⟩

/-- A color that another one reaches in priority does not count. -/
theorem isHighest_cons_cons_of_le (le : first.priority ≤ second.priority) :
    color.IsHighest (first :: second :: colors) ↔ color.IsHighest (second :: colors) := by
  constructor
  · rintro ⟨member, highest⟩
    refine ⟨?_, fun other otherMember => highest other (List.mem_cons_of_mem _ otherMember)⟩
    rcases List.mem_cons.mp member with rfl | member
    · have secondLe := highest second (List.mem_cons_of_mem _ List.mem_cons_self)
      rw [eq_of_priority_eq (Nat.le_antisymm le secondLe)]
      exact List.mem_cons_self
    · exact member
  · rintro ⟨member, highest⟩
    refine ⟨List.mem_cons_of_mem _ member, fun other otherMember => ?_⟩
    rcases List.mem_cons.mp otherMember with rfl | otherMember
    · exact Nat.le_trans le (highest second List.mem_cons_self)
    · exact highest other otherMember

/-- As soon as there are colors, one of them is the highest. -/
theorem exists_isHighest (nonempty : colors ≠ []) : ∃ color : Color, color.IsHighest colors := by
  induction colors with
  | nil => exact absurd rfl nonempty
  | cons first rest ih =>
      cases rest with
      | nil => exact ⟨first, isHighest_singleton.mpr rfl⟩
      | cons second tail =>
          obtain ⟨highest, isHighest⟩ := ih (List.cons_ne_nil _ _)
          rcases Nat.le_total first.priority highest.priority with le | le
          · refine ⟨highest, List.mem_cons_of_mem _ isHighest.1, fun other member => ?_⟩
            rcases List.mem_cons.mp member with rfl | member
            · exact le
            · exact isHighest.2 other member
          · refine ⟨first, List.mem_cons_self, fun other member => ?_⟩
            rcases List.mem_cons.mp member with rfl | member
            · exact Nat.le_refl _
            · exact Nat.le_trans (isHighest.2 other member) le

end Color

/-! ## Entering lanes -/

/-- The colors that a state shows to lanes. -/
def shownColors (state : List Char) (lanes : List LaneConnection) : List Color :=
  lanes.map fun lane => stateColor state lane.signalIndex

/-- The lanes of an edge that lead into the intersection. -/
def edgeLanes (connections : List LaneConnection) (edge : String) : List LaneConnection :=
  (connections.filter LaneConnection.isExternal).filter fun lane => lane.fromEdge = edge

theorem mem_edgeLanes {connections : List LaneConnection} {edge : String}
    {lane : LaneConnection} :
    lane ∈ edgeLanes connections edge ↔
      lane ∈ connections ∧ lane.isExternal ∧ lane.fromEdge = edge := by
  rw [edgeLanes, List.mem_filter, List.mem_filter, decide_eq_true_iff, and_assoc]

/-- Entering a lane leaves the colors of all other edges. -/
theorem get?_enterLane_of_ne (state : List Char) (colors : Keyed String Color)
    {lane : LaneConnection} {edge : String} (different : lane.fromEdge ≠ edge) :
    (enterLane state colors lane).get? edge = colors.get? edge := by
  unfold enterLane
  cases colors.get? lane.fromEdge with
  | none => simp [Keyed.get?_put, different]
  | some current =>
      dsimp only
      split
      · simp [Keyed.get?_put, different]
      · rfl

/-- Entering a lane of an edge adds its color to those of which the edge keeps the highest. -/
theorem isHighest_enterLane (state : List Char) (colors : Keyed String Color)
    (lane : LaneConnection) (color : Color) (later : List Color) :
    color.IsHighest
        (((enterLane state colors lane).get? lane.fromEdge).toList ++ later) ↔
      color.IsHighest
        ((colors.get? lane.fromEdge).toList ++
          stateColor state lane.signalIndex :: later) := by
  unfold enterLane
  cases found : colors.get? lane.fromEdge with
  | none => simp [Keyed.get?_put]
  | some current =>
      dsimp only
      split
      next lower =>
        simp only [Keyed.get?_put, if_true, Option.toList_some, List.singleton_append]
        exact (Color.isHighest_cons_cons_of_le (Nat.le_of_lt lower)).symm
      next notLower =>
        -- The color of the lane is not entered, and one that it does not exceed stands in for it.
        simp only [found, Option.toList_some, List.singleton_append]
        rw [← Color.isHighest_cons_cons_of_le (Nat.le_of_not_lt notLower)]
        exact Color.isHighest_congr fun shown => by simp [or_left_comm]

/-- Entering lanes leaves each edge the highest color among its lanes and what it had before. -/
theorem get?_foldl_enterLane (state : List Char) (lanes : List LaneConnection)
    (colors : Keyed String Color) (edge : String) (color : Color) :
    (lanes.foldl (enterLane state) colors).get? edge = some color ↔
      color.IsHighest
        ((colors.get? edge).toList ++
          shownColors state (lanes.filter fun lane => lane.fromEdge = edge)) := by
  -- The table is general, since after the first lane it is no longer empty.
  induction lanes generalizing colors with
  | nil =>
      cases found : colors.get? edge with
      | none => simp [found, shownColors, Color.IsHighest]
      | some current => simp [found, shownColors, Color.isHighest_singleton]
  | cons lane rest ih =>
      rw [List.foldl_cons, ih]
      by_cases same : lane.fromEdge = edge
      · subst same
        rw [isHighest_enterLane]
        simp [shownColors]
      · rw [get?_enterLane_of_ne state colors same]
        simp [same]

/-- Entering lanes keeps the edges in the order of their ids. -/
theorem sorted_foldl_enterLane (state : List Char) (lanes : List LaneConnection)
    {colors : Keyed String Color} (sorted : colors.Sorted) :
    Keyed.Sorted (lanes.foldl (enterLane state) colors) := by
  induction lanes generalizing colors with
  | nil => exact sorted
  | cons lane rest ih =>
      refine ih ?_
      unfold enterLane
      cases colors.get? lane.fromEdge with
      | none => exact sorted.put _ _
      | some current =>
          dsimp only
          split
          · exact sorted.put _ _
          · exact sorted

/-! ## The colors of a schedule -/

namespace Schedule

variable {α : Type} [Scalar α]

/-- The color of an edge is the highest that the active state shows to its lanes; an edge without
lanes into the intersection has none. -/
theorem get?_edgeColors {schedule : Schedule α} {time : α} {state : String}
    (active : schedule.stateAt? time = some state) (connections : List LaneConnection)
    (edge : String) (color : Color) :
    (schedule.edgeColors time connections).get? edge = some color ↔
      color.IsHighest (shownColors state.toList (edgeLanes connections edge)) := by
  rw [edgeColors, active]
  dsimp only
  rw [get?_foldl_enterLane]
  rfl

/-- The edges are in the order of their ids. -/
theorem sorted_edgeColors (schedule : Schedule α) (time : α)
    (connections : List LaneConnection) :
    Keyed.Sorted (schedule.edgeColors time connections) := by
  unfold edgeColors
  cases schedule.stateAt? time with
  | none => exact Keyed.sorted_nil
  | some state => exact sorted_foldl_enterLane _ _ Keyed.sorted_nil

/-- The entries of a table of edge colors are the highest colors of edges. -/
theorem mem_edgeColors {schedule : Schedule α} {time : α} {state : String}
    (active : schedule.stateAt? time = some state) (connections : List LaneConnection)
    (edge : String) (color : Color) :
    (edge, color) ∈ schedule.edgeColors time connections ↔
      color.IsHighest (shownColors state.toList (edgeLanes connections edge)) := by
  rw [(sorted_edgeColors schedule time connections).mem_iff, get?_edgeColors active]

/-- Exactly the edges with lanes into the intersection have a color. -/
theorem exists_mem_edgeColors {schedule : Schedule α} {time : α} {state : String}
    (active : schedule.stateAt? time = some state) (connections : List LaneConnection)
    (edge : String) :
    (∃ color, (edge, color) ∈ schedule.edgeColors time connections) ↔
      ∃ lane, lane ∈ edgeLanes connections edge := by
  simp only [mem_edgeColors active]
  constructor
  · rintro ⟨color, shown, -⟩
    obtain ⟨lane, member, -⟩ := List.mem_map.mp shown
    exact ⟨lane, member⟩
  · rintro ⟨lane, member⟩
    exact Color.exists_isHighest (List.ne_nil_of_mem (List.mem_map_of_mem member))

end Schedule

end JunctionReplay
