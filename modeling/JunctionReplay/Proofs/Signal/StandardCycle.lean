import JunctionReplay.Signal.Cycle

/-!
# States of the standard cycle

The states are as long as the largest signal index requires, so every place that is marked lies
within them.  The only thing that can go wrong is a state that is too long to be held, and a
connection with an index close to the limit is enough for that.

## Main Definitions

* `Approach.OnAxis`, `LeadsFromAxis` — the sides of an axis, and the edges that come in on it.
* `StandardCycle.IsLit` — the signal indices that belong to an axis.

## Main Statements

* `StandardCycle.isStateLength_stateLength` — how long the states are.
* `StandardCycle.litState_eq` — marks at places within a state are written without a fault.
* `StandardCycle.phases_eq` — the four phases of a standard cycle whose states can be held.
* `StandardCycle.phases_eq_error_iff` — which fault there is, and when.
* `StandardCycle.le_stateLength_iff` — what makes the states reach a length.
-/

namespace JunctionReplay

/-- A side lies on an axis: north and south on the one, east and west on the other. -/
inductive Approach.OnAxis : (northSouth : Bool) → Approach → Prop where
  | north : OnAxis true .north
  | south : OnAxis true .south
  | east : OnAxis false .east
  | west : OnAxis false .west

theorem Approach.isNorthSouth_eq_iff {approach : Approach} {northSouth : Bool} :
    approach.isNorthSouth = northSouth ↔ approach.OnAxis northSouth := by
  constructor
  · rintro rfl
    cases approach with
    | north => exact .north
    | south => exact .south
    | east => exact .east
    | west => exact .west
  · intro onAxis
    cases onAxis <;> rfl

/-- An edge comes in on the road of an axis. -/
def LeadsFromAxis (directions : Directions) (northSouth : Bool) (edge : String) : Prop :=
  ∃ approach, directions.get? edge = some approach ∧ approach.OnAxis northSouth

namespace StandardCycle

/-- A signal index belongs to a connection into the intersection from the road of an axis. -/
def IsLit (connections : List LaneConnection) (directions : Directions) (northSouth : Bool)
    (index : Nat) : Prop :=
  ∃ lane ∈ connections, lane.isExternal ∧
    LeadsFromAxis directions northSouth lane.fromEdge ∧ lane.signalIndex = index

variable {connections : List LaneConnection} {directions : Directions} {northSouth : Bool}
variable {fallback index : Nat}

/-! ## Signal indices -/

theorem mem_externalIndices :
    index ∈ externalIndices connections ↔
      ∃ lane ∈ connections, lane.isExternal ∧ lane.signalIndex = index := by
  simp only [externalIndices, List.mem_map, List.mem_filter, and_assoc]

/-- The places that are lit for an axis are the signal indices of the lanes from its road. -/
theorem mem_litIndices :
    index ∈ litIndices connections directions northSouth ↔
      IsLit connections directions northSouth index := by
  simp only [litIndices, IsLit, List.mem_map, List.mem_filter, and_assoc]
  refine exists_congr fun lane => and_congr_right fun _ => and_congr_right fun _ =>
    and_congr_left fun _ => ?_
  cases found : directions.get? lane.fromEdge with
  | none => simp [LeadsFromAxis, found]
  | some approach => simp [LeadsFromAxis, found, Approach.isNorthSouth_eq_iff]

instance : Decidable (IsLit connections directions northSouth index) :=
  decidable_of_iff _ mem_litIndices

/-! ## The length of the states -/

/-- A number of places reaches just as far as the signal indices of the connections into the
intersection, or is the fallback if there are none. -/
def IsStateLength (connections : List LaneConnection) (fallback length : Nat) : Prop :=
  ((∀ lane ∈ connections, ¬ lane.isExternal) ∧ length = fallback) ∨
    ∃ lane ∈ connections, lane.isExternal ∧
      (∀ other ∈ connections, other.isExternal → other.signalIndex ≤ lane.signalIndex) ∧
        length = lane.signalIndex + 1

/-- The length of the states is one more than the largest signal index, or the fallback without
one. -/
theorem isStateLength_stateLength (connections : List LaneConnection) (fallback : Nat) :
    IsStateLength connections fallback (stateLength connections fallback) := by
  unfold stateLength
  cases found : (externalIndices connections).max? with
  | none =>
      have empty := List.max?_eq_none_iff.mp found
      refine Or.inl ⟨fun lane member external => ?_, rfl⟩
      exact List.ne_nil_of_mem (mem_externalIndices.mpr ⟨lane, member, external, rfl⟩) empty
  | some largest =>
      obtain ⟨largestMember, greatest⟩ := List.max?_eq_some_iff.mp found
      obtain ⟨lane, member, external, rfl⟩ := mem_externalIndices.mp largestMember
      refine Or.inr ⟨lane, member, external, fun other otherMember otherExternal => ?_, rfl⟩
      exact greatest _ (mem_externalIndices.mpr ⟨other, otherMember, otherExternal, rfl⟩)

/-- Every signal index of a connection into the intersection lies within the states. -/
theorem lt_stateLength {lane : LaneConnection} (member : lane ∈ connections)
    (external : lane.isExternal) : lane.signalIndex < stateLength connections fallback := by
  rcases isStateLength_stateLength connections fallback with
    ⟨none, -⟩ | ⟨largest, -, -, greatest, length⟩
  · exact absurd external (none lane member)
  · rw [length]
    exact Nat.lt_succ_of_le (greatest lane member external)

/-- The states reach a bound through one index that does, or through the fallback. -/
theorem le_stateLength_iff {bound : Nat} :
    bound ≤ stateLength connections fallback ↔
      (∃ lane ∈ connections, lane.isExternal ∧ bound ≤ lane.signalIndex + 1) ∨
        ((∀ lane ∈ connections, ¬ lane.isExternal) ∧ bound ≤ fallback) := by
  rcases isStateLength_stateLength connections fallback with
    ⟨none, length⟩ | ⟨largest, member, external, greatest, length⟩
  · rw [length]
    constructor
    · intro le
      exact Or.inr ⟨none, le⟩
    · rintro (⟨lane, laneMember, laneExternal, -⟩ | ⟨-, le⟩)
      · exact absurd laneExternal (none lane laneMember)
      · exact le
  · rw [length]
    constructor
    · intro le
      exact Or.inl ⟨largest, member, external, le⟩
    · rintro (⟨lane, laneMember, laneExternal, le⟩ | ⟨none, -⟩)
      · exact Nat.le_trans le (Nat.succ_le_succ (greatest lane laneMember laneExternal))
      · exact absurd external (none largest member)

/-- Every lit place lies within the states. -/
theorem IsLit.lt_stateLength (lit : IsLit connections directions northSouth index) :
    index < stateLength connections fallback := by
  obtain ⟨lane, member, external, -, rfl⟩ := lit
  exact StandardCycle.lt_stateLength member external

/-! ## Marking places -/

/-- Places that lie within a state are marked without a fault, and nothing else changes. -/
theorem markPlaces_eq (mark : Char) (places : List Nat) (state : List Char)
    (inside : ∀ place ∈ places, place < state.length) :
    markPlaces mark places state =
      .ok (state.mapIdx fun place current => if place ∈ places then mark else current) := by
  -- The state is general, since each mark that is written changes it.
  induction places generalizing state with
  | nil =>
      have unchanged : state.mapIdx (fun _ current => current) = state :=
        List.ext_getElem (by simp) fun place _ _ => by simp
      simp [markPlaces, pure, Except.pure, unchanged]
  | cons first rest ih =>
      have firstInside := inside first List.mem_cons_self
      have restInside : ∀ place ∈ rest, place < (state.set first mark).length := fun place member =>
        List.length_set.symm ▸ inside place (List.mem_cons_of_mem _ member)
      have written :
          markPlaces mark (first :: rest) state = markPlaces mark rest (state.set first mark) := by
        rw [markPlaces, List.foldlM_cons, if_pos firstInside]
        rfl
      rw [written, ih _ restInside, Except.ok.injEq]
      refine List.ext_getElem (by simp) fun place _ _ => ?_
      by_cases same : place = first
      · simp [same]
      · simp [same, Ne.symm same]

/-- The characters of a state that is red but for its lit places. -/
def litPlaces (length : Nat) (lit : List Nat) (mark : Char) : List Char :=
  (List.range length).map fun place => if place ∈ lit then mark else 'r'

@[simp] theorem length_litPlaces (length : Nat) (lit : List Nat) (mark : Char) :
    (litPlaces length lit mark).length = length := by
  simp [litPlaces]

theorem getElem?_litPlaces {length place : Nat} (inside : place < length) (lit : List Nat)
    (mark : Char) :
    (litPlaces length lit mark)[place]? = some (if place ∈ lit then mark else 'r') := by
  simp [litPlaces, inside]

/-- A state whose lit places lie within it is built without a fault. -/
theorem litState_eq (length : Nat) (lit : List Nat) (mark : Char)
    (inside : ∀ place ∈ lit, place < length) :
    litState length lit mark = .ok (String.ofList (litPlaces length lit mark)) := by
  rw [litState, markPlaces_eq mark lit _ (by simpa using inside)]
  have places : (List.replicate length 'r').mapIdx
      (fun place current => if place ∈ lit then mark else current) =
        litPlaces length lit mark :=
    List.ext_getElem (by simp) fun place _ _ => by simp [litPlaces]
  rw [places]
  rfl

/-! ## The phases -/

/-- The state of an axis that shows a mark. -/
def axisState (connections : List LaneConnection) (directions : Directions) (fallback : Nat)
    (northSouth : Bool) (mark : Char) : String :=
  String.ofList
    (litPlaces (stateLength connections fallback) (litIndices connections directions northSouth)
      mark)

section Phases

variable {α : Type} {timing : CycleTiming α}

/-- As long as its states can be held, the standard cycle has its four phases. -/
theorem phases_eq (directions : Directions)
    (holds : stateLength connections timing.fallbackStateLength < stateLimit) :
    phases connections directions timing =
      .ok
        [ ⟨timing.northSouthGreen,
            axisState connections directions timing.fallbackStateLength true 'G'⟩,
          ⟨timing.northSouthYellow,
            axisState connections directions timing.fallbackStateLength true 'y'⟩,
          ⟨timing.eastWestGreen,
            axisState connections directions timing.fallbackStateLength false 'G'⟩,
          ⟨timing.eastWestYellow,
            axisState connections directions timing.fallbackStateLength false 'y'⟩ ] := by
  -- No place can lie outside of a state: its length is taken from the same connections.
  have built (northSouth : Bool) (mark : Char) :
      litState (stateLength connections timing.fallbackStateLength)
          (litIndices connections directions northSouth) mark =
        .ok (axisState connections directions timing.fallbackStateLength northSouth mark) :=
    litState_eq _ _ _ fun _ lit => (mem_litIndices.mp lit).lt_stateLength
  unfold phases
  dsimp only
  rw [if_pos holds, built, built, built, built]
  rfl

/-- States that cannot be held are the only fault. -/
theorem phases_eq_error_iff (directions : Directions) {fault : Fault} :
    phases connections directions timing = .error fault ↔
      fault = .stateTooLong ∧
        stateLimit ≤ stateLength connections timing.fallbackStateLength := by
  by_cases holds : stateLength connections timing.fallbackStateLength < stateLimit
  · simp [phases_eq directions holds, Nat.not_le_of_lt holds]
  · simp [phases, holds, Nat.le_of_not_lt holds, eq_comm]

end Phases

end StandardCycle

end JunctionReplay
