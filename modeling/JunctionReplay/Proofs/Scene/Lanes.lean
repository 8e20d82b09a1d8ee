import Mathlib.Algebra.Order.Field.Rat
import Mathlib.Data.Nat.Sqrt
import Mathlib.Tactic.Linarith
import Mathlib.Tactic.NormNum
import Mathlib.Tactic.Ring
import JunctionReplay.Scalar.Exact
import JunctionReplay.Scene.Road

/-!
# The lanes of a road

The strip of a road is as wide as its lanes together, and its dividing lines are counted from the
left border on.  Counted in this way the borders are lines as well, the one behind no lane and the
one behind all lanes, so that everything about the lanes follows from one list, the lines behind the
first so many lanes for every number of them.

All of this is said in exact arithmetic: on machine numbers the lines are rounded one by one.

## Main Definitions

* `RoadStrip.lineBehind` — where the line behind the first lanes of a strip is.
* `RoadStrip.lines` — the lines of a strip with its borders.
* `RoadStrip.SplitsEvenly` — the dividing lines cut a strip into lanes of one width.

## Main Statements

* `RoadStrip.splitsEvenly_of_ofEdge?` — the strip of an edge is cut into its lanes.
-/

namespace JunctionReplay.RoadStrip

/-! ## Lines -/

/-- How far to the side of the middle the line behind the first `index` lanes is. -/
def lineBehind (lanes : Nat) (laneWidth : Rat) (index : Nat) : Rat :=
  index * laneWidth - lanes * laneWidth / 2

section

variable {lanes index other : Nat} {laneWidth : Rat}

theorem dividerAt_eq (lanes index : Nat) (laneWidth : Rat) :
    dividerAt lanes index laneWidth = lineBehind lanes laneWidth index := by
  have two : (2.0 : Rat) = 2 := by norm_num
  show (index : Rat) * laneWidth - (lanes : Rat) * laneWidth / 2.0 = _
  rw [two, lineBehind]

theorem lineBehind_lt (wide : 0 < laneWidth) (lt : index < other) :
    lineBehind lanes laneWidth index < lineBehind lanes laneWidth other := by
  have more : (index : Rat) * laneWidth < other * laneWidth :=
    mul_lt_mul_of_pos_right (by exact_mod_cast lt) wide
  unfold lineBehind
  linarith

/-- Seen from the other side, a line is behind the other lanes. -/
theorem lineBehind_add (sum : index + other = lanes) :
    lineBehind lanes laneWidth other = -lineBehind lanes laneWidth index := by
  subst sum
  simp only [lineBehind]
  push_cast
  ring

theorem lineBehind_zero (lanes : Nat) (laneWidth : Rat) :
    lineBehind lanes laneWidth 0 = -(lanes * laneWidth / 2) := by
  simp [lineBehind]

theorem lineBehind_self (lanes : Nat) (laneWidth : Rat) :
    lineBehind lanes laneWidth lanes = lanes * laneWidth / 2 := by
  unfold lineBehind
  ring

/-- From one line to the next there is one lane. -/
theorem lineBehind_succ_sub (lanes index : Nat) (laneWidth : Rat) :
    lineBehind lanes laneWidth (index + 1) - lineBehind lanes laneWidth index = laneWidth := by
  simp only [lineBehind]
  push_cast
  ring

/-- Several lanes are divided by the lines behind all but the last of them. -/
theorem dividersOf_eq (several : 2 ≤ lanes) (laneWidth : Rat) :
    dividersOf lanes laneWidth =
      (List.range (lanes - 1)).map fun index => lineBehind lanes laneWidth (index + 1) := by
  have notSingle : lanes ≠ 1 := by omega
  simp only [dividersOf, if_neg notSingle, dividerAt_eq]

end

/-! ## Strips -/

/-- The lines of a strip from its left border to its right one. -/
def lines (strip : RoadStrip Rat) : List Rat :=
  -(strip.width / 2) :: strip.dividers ++ [strip.width / 2]

/-- The dividing lines cut a strip into lanes of one width. -/
structure SplitsEvenly (strip : RoadStrip Rat) (lanes : Nat) (laneWidth : Rat) : Prop where
  /-- A strip is as wide as its lanes together. -/
  width_eq : strip.width = lanes * laneWidth
  /-- There is one line fewer than there are lanes. -/
  length_dividers : strip.dividers.length = lanes - 1
  /-- The lines go from the left to the right. -/
  increasing : strip.dividers.Pairwise (· < ·)
  /-- No line is on a border or beyond it. -/
  inside : ∀ line ∈ strip.dividers, -(strip.width / 2) < line ∧ line < strip.width / 2
  /-- Each line from the right is where the one from the left is on the other side. -/
  symmetric : strip.dividers.reverse = strip.dividers.map fun line => -line
  /-- From each line to the next, the borders among them, there is one lane. -/
  gaps : List.zipWith (fun left right => right - left) strip.lines strip.lines.tail =
    List.replicate lanes laneWidth

section

variable {lanes : Nat} {laneWidth : Rat} {strip : RoadStrip Rat}

/-- With the borders there is a line behind every number of lanes. -/
theorem lines_eq (several : 2 ≤ lanes) (width : strip.width = lanes * laneWidth)
    (dividers : strip.dividers = dividersOf lanes laneWidth) :
    strip.lines = (List.range (lanes + 1)).map (lineBehind lanes laneWidth) := by
  obtain ⟨inner, rfl⟩ : ∃ inner, lanes = inner + 1 := ⟨lanes - 1, by omega⟩
  rw [lines, width, dividers, dividersOf_eq several, ← lineBehind_zero, ← lineBehind_self,
    List.range_succ, List.range_succ_eq_map, List.map_append, List.map_cons, List.map_map]
  rfl

/-- Lines behind every number of lanes cut a strip evenly. -/
theorem splitsEvenly (several : 2 ≤ lanes) (wide : 0 < laneWidth)
    (width : strip.width = lanes * laneWidth)
    (dividers : strip.dividers = dividersOf lanes laneWidth) :
    strip.SplitsEvenly lanes laneWidth where
  width_eq := width
  length_dividers := by simp [dividers, dividersOf_eq several]
  increasing := by
    rw [dividers, dividersOf_eq several, List.pairwise_map]
    exact List.pairwise_lt_range.imp fun lt => lineBehind_lt wide (Nat.succ_lt_succ lt)
  inside := by
    rw [dividers, dividersOf_eq several, width, ← lineBehind_zero, ← lineBehind_self]
    intro line member
    obtain ⟨index, isIndex, rfl⟩ := List.mem_map.mp member
    have below := List.mem_range.mp isIndex
    exact ⟨lineBehind_lt wide (by omega), lineBehind_lt wide (by omega)⟩
  symmetric := by
    rw [dividers, dividersOf_eq several]
    refine List.ext_getElem (by simp) fun index within _ => ?_
    have below : index < lanes - 1 := by simpa using within
    simp only [List.getElem_reverse, List.getElem_map, List.getElem_range, List.length_map,
      List.length_range]
    exact lineBehind_add (by omega)
  gaps := by
    rw [lines_eq several width dividers]
    refine List.ext_getElem (by simp) fun index _ _ => ?_
    simp only [List.getElem_zipWith, List.getElem_tail, List.getElem_map, List.getElem_range,
      List.getElem_replicate]
    exact lineBehind_succ_sub lanes index laneWidth

/-- **The lanes of a road.**  In exact arithmetic, the dividing lines of an edge with two lanes or
more cut its strip into as many lanes of the given width: there is one line fewer than there are
lanes, they go from the left to the right strictly between the borders, and they lie evenly around
the middle. -/
theorem splitsEvenly_of_ofEdge? [Planar Rat] {store : Store Rat} {bounds : SceneBounds Rat}
    {edge : RoadEdge Rat} (several : 2 ≤ edge.laneCount) (wide : 0 < laneWidth)
    (drawn : ofEdge? store bounds laneWidth edge = some strip) :
    strip.SplitsEvenly edge.laneCount laneWidth := by
  obtain ⟨ends, -, rfl⟩ := Option.map_eq_some_iff.mp drawn
  have lanes : laneCount edge = edge.laneCount := Nat.max_eq_left (by omega)
  apply splitsEvenly several wide
  · show (laneCount edge : Rat) * laneWidth = _
    rw [lanes]
  · show dividersOf (laneCount edge) laneWidth = _
    rw [lanes]

/-- Three lanes on a road along the `x` axis. -/
theorem splitsEvenly_of_ofEdge?_three_lanes :
    let _ : Planar Rat :=
      ⟨fun a => (a.floor.toNat.sqrt : Nat), fun y x => y / x, 157 / 100, 1 / 4503599627370496⟩
    let edge : RoadEdge Rat := ⟨"road", "west", "east", 50, 3⟩
    let store : Store Rat :=
      ⟨[⟨"west", 0, 0, ""⟩, ⟨"east", 40, 0, ""⟩], [edge], [], [], [], none⟩
    let strip := between edge (7 / 2) ⟨-20, 0⟩ ⟨20, 0⟩
    2 ≤ edge.laneCount ∧ (0 : Rat) < 7 / 2 ∧
      ofEdge? store (.ofStore store) (7 / 2) edge = some strip ∧
      strip.SplitsEvenly 3 (7 / 2) ∧
      strip.lines = [-(21 / 4), -(7 / 4), 7 / 4, 21 / 4] := by
  intro _ edge store strip
  have drawn : ofEdge? store (.ofStore store) (7 / 2) edge = some strip := by decide +kernel
  have wide : (0 : Rat) < 7 / 2 := by norm_num
  exact ⟨by decide, wide, drawn, splitsEvenly_of_ofEdge? (by decide) wide drawn, by decide +kernel⟩

end

end JunctionReplay.RoadStrip
