import JunctionReplay.Proofs.Payload.Stores
import JunctionReplay.Proofs.Session.Replay
import JunctionReplay.Proofs.Signal.ApproachColors

/-!
# Signals of a session

A frame goes through all lights of the store and lets each of them overwrite what the lights before
it show.  Which sides a light shows does not depend on the light: as soon as it shows any state at
all, it shows every side from which lanes lead in.  So each light overwrites everything that the
lights before it show, and only the last one counts.

That a light shows a state at every time is what reading a payload sees to.

## Main Statements

* `Store.signalsAt_eq_last` — the last light shows what the store shows.
* `Store.mem_approachLanes_signalConnections` — the lanes that count.
* `Session.run_frames_show_last_light` — every frame of a session.
-/

namespace JunctionReplay

/-! ## The order of the sides -/

instance Approach.instAsymmLT : Std.Asymm (α := Approach) (· < ·) where
  asymm _ _ := Nat.lt_asymm

instance Approach.instTransLT :
    Trans (α := Approach) (β := Approach) (γ := Approach) (· < ·) (· < ·) (· < ·) where
  trans := Nat.lt_trans

instance Approach.instTrichotomousLT : Std.Trichotomous (α := Approach) (· < ·) where
  trichotomous a b notBelow notAbove := by
    have sameRank : a.rank = b.rank :=
      Nat.le_antisymm (Nat.le_of_not_lt notAbove) (Nat.le_of_not_lt notBelow)
    cases a <;> cases b <;> first | rfl | cases sameRank

variable {α : Type} [Scalar α] {directions : Directions} {time : α}

theorem Schedule.sorted_approachColors (schedule : Schedule α) (time : α)
    (connections : List LaneConnection) (directions : Directions) :
    Keyed.Sorted (schedule.approachColors time connections directions) :=
  Keyed.sorted_ofPairs _

/-! ## The signals of a store -/

namespace Store

/-- The colors that a light shows to the sides of the intersection at a time. -/
def lightColors (store : Store α) (directions : Directions) (time : α) (light : TrafficLight α) :
    Keyed Approach Color :=
  light.schedule.approachColors time store.signalConnections directions

/-- A side has a road of the network on which a lane leads into the intersection. -/
def LeadsInFrom (store : Store α) (directions : Directions) (approach : Approach) : Prop :=
  ∃ lane ∈ store.connections, lane.isExternal ∧
    (∃ edge ∈ store.edges, edge.id = lane.fromEdge) ∧
      directions.get? lane.fromEdge = some approach

omit [Scalar α] in
/-- The lanes that count are those that start on a road of the network. -/
theorem mem_approachLanes_signalConnections {store : Store α} {approach : Approach}
    {lane : LaneConnection} :
    lane ∈ approachLanes store.signalConnections directions approach ↔
      lane ∈ store.connections ∧ lane.isExternal ∧
        (∃ edge ∈ store.edges, edge.id = lane.fromEdge) ∧
          directions.get? lane.fromEdge = some approach := by
  have found : (store.edge? lane.fromEdge).isSome ↔
      ∃ edge ∈ store.edges, edge.id = lane.fromEdge := by
    simp [edge?]
  rw [mem_approachLanes, signalConnections, List.mem_filter, found]
  grind

/-- If all lights show a state, then the last one shows what the store shows. -/
theorem signalsAt_eq_last {store : Store α} {last : TrafficLight α}
    (isLast : store.lights.getLast? = some last)
    (active : ∀ light ∈ store.lights, ∃ state, light.schedule.stateAt? time = some state) :
    store.signalsAt directions time = store.lightColors directions time last := by
  obtain ⟨earlier, split⟩ := List.getLast?_eq_some_iff.mp isLast
  obtain ⟨lastState, lastActive⟩ := active last (List.mem_of_getLast? isLast)
  have sorted (light : TrafficLight α) : Keyed.Sorted (store.lightColors directions time light) :=
    light.schedule.sorted_approachColors time store.signalConnections directions
  unfold signalsAt
  rw [split]
  refine Keyed.foldl_putAll_eq_last sorted ?_
  intro light member approach absent
  have inLights : light ∈ store.lights := by
    rw [split]
    exact List.mem_append_left _ member
  obtain ⟨state, lightActive⟩ := active light inLights
  -- No light shows a side without lanes.
  have noLanes := (Schedule.approachColors_eq_none_iff lastActive _ _ _).mp absent
  exact (Schedule.approachColors_eq_none_iff lightActive _ _ _).mpr noLanes

/-- A light that shows a state shows exactly the sides from which lanes lead in. -/
theorem exists_lightColor_iff {store : Store α} {light : TrafficLight α} {state : String}
    (active : light.schedule.stateAt? time = some state) (approach : Approach) :
    (∃ color, (store.lightColors directions time light).get? approach = some color) ↔
      store.LeadsInFrom directions approach := by
  refine (Schedule.exists_approachColor active _ _ _).trans ?_
  constructor
  · intro nonempty
    obtain ⟨lane, member⟩ := List.exists_mem_of_ne_nil _ nonempty
    exact ⟨lane, mem_approachLanes_signalConnections.mp member⟩
  · rintro ⟨lane, leads⟩
    exact List.ne_nil_of_mem (mem_approachLanes_signalConnections.mpr leads)

end Store

/-! ## The frames of a session -/

namespace Session

/-- **The signals of a session.**  No operation on a session of a store that was read from a payload
fails, and every frame of it shows no side if the store has no lights.  Otherwise it shows exactly
the sides with a road of the network on which a lane leads into the intersection, in the colors of
the last light alone. -/
theorem run_frames_show_last_light {store : Store Float} (loaded : Payload.IsLoaded store)
    {config : Config Float} {first : Session Float} (started : start store config = .ok first)
    (ops : List (Op Float)) :
    ∃ last frames, first.run ops = .ok (last, frames) ∧ ∀ frame ∈ frames,
      (store.lights = [] → frame.signals = []) ∧
      ∀ light, store.lights.getLast? = some light →
        frame.signals = light.schedule.approachColors frame.time store.signalConnections
            config.directions ∧
          ∀ approach, (∃ color, frame.signals.get? approach = some color) ↔
            store.LeadsInFrom config.directions approach := by
  obtain ⟨replays, -⟩ := start_replays started
  obtain ⟨last, frames, ran, -, shows⟩ := run_replays replays ops
  refine ⟨last, frames, ran, ?_⟩
  intro frame member
  have signals := shows frame member
  constructor
  · intro noLights
    rw [signals, Store.signalsAt, noLights]
    rfl
  · intro light isLast
    have active : ∀ light ∈ store.lights, ∃ state,
        light.schedule.stateAt? frame.time = some state := by
      intro light member
      exact loaded.exists_stateAt? member frame.time
    rw [Store.signalsAt_eq_last isLast active] at signals
    obtain ⟨state, lightActive⟩ := active light (List.mem_of_getLast? isLast)
    refine ⟨signals, fun approach => ?_⟩
    rw [signals]
    exact Store.exists_lightColor_iff lightActive approach

set_option maxRecDepth 4000 in
/-- Two lights and two lanes, one of which starts on a road that is not part of the network. -/
theorem run_frames_show_last_light_two_lights :
    let text :=
      "\x7b\x22intersection\x22:\x7b
        \x22edges\x22:[\x7b\x22id\x22:\x22a\x22,\x22from\x22:\x22\x22,\x22to\x22:\x22\x22\x7d],
        \x22trafficLights\x22:[
        \x7b\x22id\x22:\x22x\x22,\x22phases\x22:[\x7b\x22duration\x22:5,\x22state\x22:\x22r\x22\x7d]\x7d,
        \x7b\x22id\x22:\x22y\x22,\x22phases\x22:[\x7b\x22duration\x22:5,\x22state\x22:\x22G\x22\x7d]\x7d],
        \x22connections\x22:[\x7b\x22from\x22:\x22a\x22,\x22to\x22:\x22c\x22,\x22tl\x22:0\x7d,
        \x7b\x22from\x22:\x22b\x22,\x22to\x22:\x22c\x22,\x22tl\x22:0\x7d]\x7d\x7d"
    let store : Store Float :=
      { nodes := []
        edges := [⟨"a", "", "", 0.0, 1⟩]
        vehicles := []
        lights :=
          [ ⟨"x", [⟨5.0, "r"⟩], .ofPhases [⟨5.0, "r"⟩]⟩,
            ⟨"y", [⟨5.0, "G"⟩], .ofPhases [⟨5.0, "G"⟩]⟩ ]
        connections := [⟨"a", "c", 0, 0, 0⟩, ⟨"b", "c", 0, 0, 0⟩]
        results := none }
    let config : Config Float :=
      { Config.standard with directions := [("a", .north), ("b", .south)] }
    let first : Session Float :=
      ⟨store, config.directions, config.playback, .start 5.0 true, []⟩
    Payload.storeOfText text .standard .standard = .ok (.ok store) ∧
      start store config = .ok first ∧
      ∃ last frame, first.run [.frame] = .ok (last, [frame]) ∧
        frame.signals = [(.north, .green)] ∧
        ∀ approach, (∃ color, frame.signals.get? approach = some color) ↔
          store.LeadsInFrom config.directions approach := by
  intro text store config first
  have loaded : Payload.storeOfText text .standard .standard = .ok (.ok store) :=
    Payload.storeOfText_of_document (by decide +kernel)
  have started : start store config = .ok first := by decide +kernel
  have ran : first.run [.frame] = .ok (first.afterFrame, [first.frame]) := rfl
  obtain ⟨_, _, ran', shows⟩ :=
    run_frames_show_last_light ⟨text, .standard, .standard, loaded⟩ started [.frame]
  cases ran.symm.trans ran'
  obtain ⟨-, sides⟩ := (shows first.frame (List.mem_singleton.mpr rfl)).2 _ rfl
  exact ⟨loaded, started, _, _, ran, by decide +kernel, sides⟩

end Session

end JunctionReplay
