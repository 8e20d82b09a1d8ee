import JunctionReplay.Comparison
import JunctionReplay.Proofs.Payload.Stores
import JunctionReplay.Proofs.Scalar.ExactValue

/-!
# Exact copies of replays

What has been read and set up in machine numbers can be replayed without rounding: each number is
taken at its exact value, and everything that is computed from then on is computed with rational
numbers.  The schedules of the lights are computed anew as well.

Starting a replay does not round either, since it only compares numbers and chooses among them, so
that a copy can be taken before or after it (`Proofs.Run.ExactStart`).

## Main Definitions

* `Store.toExact`, `Comparison.toExact`, `PlaybackSettings.toExact` — the copies.

## Main Statements

* `Payload.IsLoaded.toExact_isIncreasing` — the copy of a store that was read has samples in the
  order of time.
* `Payload.IsLoaded.maxEndTime_toExact` — it ends when the store does.
-/

namespace JunctionReplay

open Machine (exactValue)
open Scalar (IsNumber)

/-! ## Copies -/

def RoadNode.toExact (node : RoadNode Float) : RoadNode Rat :=
  ⟨node.id, exactValue node.x, exactValue node.y, node.kind⟩

def RoadEdge.toExact (edge : RoadEdge Float) : RoadEdge Rat :=
  ⟨edge.id, edge.fromNode, edge.toNode, exactValue edge.speedLimit, edge.laneCount⟩

def Sample.toExact (sample : Sample Float) : Sample Rat :=
  ⟨exactValue sample.time, exactValue sample.x, exactValue sample.y, exactValue sample.speed⟩

def Trajectory.toExact (trajectory : Trajectory Float) : Trajectory Rat :=
  ⟨trajectory.id, trajectory.samples.map Sample.toExact⟩

def Phase.toExact (phase : Phase Float) : Phase Rat :=
  ⟨exactValue phase.duration, phase.state⟩

/-- The schedule follows from the exact durations of the phases. -/
def TrafficLight.toExact (light : TrafficLight Float) : TrafficLight Rat :=
  let phases := light.phases.map Phase.toExact
  ⟨light.id, phases, .ofPhases phases⟩

def Results.toExact (results : Results Float) : Results Rat where
  averageSpeed := exactValue results.averageSpeed
  averageTravelTime := exactValue results.averageTravelTime
  averageWaitingTime := exactValue results.averageWaitingTime
  totalVehicles := exactValue results.totalVehicles
  totalTravelTime := exactValue results.totalTravelTime

/-- A store with its numbers at their exact values. -/
def Store.toExact (store : Store Float) : Store Rat where
  nodes := store.nodes.map RoadNode.toExact
  edges := store.edges.map RoadEdge.toExact
  vehicles := store.vehicles.map Trajectory.toExact
  lights := store.lights.map TrafficLight.toExact
  connections := store.connections
  results := store.results.map Results.toExact

/-- Settings with their numbers at their exact values. -/
def PlaybackSettings.toExact (settings : PlaybackSettings Float) : PlaybackSettings Rat where
  initialSpeed := exactValue settings.initialSpeed
  minSpeed := exactValue settings.minSpeed
  maxSpeed := exactValue settings.maxSpeed
  startsPlaying := settings.startsPlaying
  frameRate := exactValue settings.frameRate

def CycleTiming.toExact (timing : CycleTiming Float) : CycleTiming Rat where
  northSouthGreen := exactValue timing.northSouthGreen
  northSouthYellow := exactValue timing.northSouthYellow
  eastWestGreen := exactValue timing.eastWestGreen
  eastWestYellow := exactValue timing.eastWestYellow
  fallbackStateLength := timing.fallbackStateLength

def Config.toExact (config : Config Float) : Config Rat where
  playback := config.playback.toExact
  cycle := config.cycle.toExact
  directions := config.directions
  scene := ⟨config.scene.seed, config.scene.laneWidth.map exactValue⟩

def Clock.toExact (clock : Clock Float) : Clock Rat :=
  ⟨exactValue clock.time, exactValue clock.speed, clock.isPlaying⟩

def Session.toExact (session : Session Float) : Session Rat where
  store := session.store.toExact
  directions := session.directions
  settings := session.settings.toExact
  clock := session.clock.toExact
  headings := session.headings.map exactValue

/-- Sessions with their numbers at their exact values. -/
def Comparison.toExact (view : Comparison Float) : Comparison Rat :=
  ⟨view.baseline.toExact, view.optimized.map Session.toExact⟩

/-! ## Trajectories -/

theorem Trajectory.endTime?_toExact (trajectory : Trajectory Float) :
    trajectory.toExact.endTime? = trajectory.endTime?.map exactValue := by
  simp only [Trajectory.endTime?, Trajectory.toExact, List.getLast?_map, Option.map_map]
  rfl

theorem Trajectory.IsIncreasing.toExact {trajectory : Trajectory Float}
    (increasing : trajectory.IsIncreasing) : trajectory.toExact.IsIncreasing :=
  List.pairwise_map.mpr (increasing.imp Machine.exactValue_lt)

/-! ## The end of a store -/

/-- The larger of two values is the value of the larger number. -/
theorem Machine.exactValue_larger {x y : Float} (numberX : IsNumber x) (numberY : IsNumber y) :
    exactValue (Scalar.larger x y) = Scalar.larger (exactValue x) (exactValue y) := by
  have number : IsNumber (exactValue y) := Rat.le_refl
  unfold Scalar.larger
  rw [if_pos numberY, if_pos number, apply_ite exactValue]
  by_cases below : y < x
  · rw [if_pos below, if_pos (exactValue_lt below)]
  · rw [if_neg below, if_neg fun lt => below ((exactValue_lt_iff numberY numberX).mp lt)]

theorem Machine.exactValue_foldl_larger {start : Float} {values : List Float}
    (numberStart : IsNumber start) (numbers : ∀ value ∈ values, IsNumber value) :
    exactValue (values.foldl Scalar.larger start) =
      (values.map exactValue).foldl Scalar.larger (exactValue start) := by
  induction values generalizing start with
  | nil => rfl
  | cons first rest ih =>
      have number := numbers first List.mem_cons_self
      rw [List.foldl_cons, List.map_cons, List.foldl_cons,
        ih (Scalar.isNumber_larger numberStart) fun value member =>
          numbers value (List.mem_cons_of_mem _ member),
        exactValue_larger numberStart number]

namespace Payload.IsLoaded

variable {store : Store Float}

theorem toExact_isIncreasing (loaded : IsLoaded store) :
    ∀ vehicle ∈ store.toExact.vehicles, vehicle.IsIncreasing := by
  intro vehicle member
  obtain ⟨original, originalMember, rfl⟩ := List.mem_map.mp member
  exact (loaded.isIncreasing original originalMember).1.toExact

/-- The copy of a store that was read ends when the store does. -/
theorem maxEndTime_toExact (loaded : IsLoaded store) :
    store.toExact.maxEndTime = exactValue store.maxEndTime := by
  have ends : store.toExact.vehicles.filterMap Trajectory.endTime? =
      (store.vehicles.filterMap Trajectory.endTime?).map exactValue := by
    rw [Store.toExact, List.filterMap_map, List.map_filterMap]
    exact congrArg (List.filterMap · store.vehicles) (funext Trajectory.endTime?_toExact)
  have numbers : ∀ value ∈ store.vehicles.filterMap Trajectory.endTime?, IsNumber value := by
    intro value listed
    obtain ⟨vehicle, member, ended⟩ := List.mem_filterMap.mp listed
    obtain ⟨last, isLast, rfl⟩ := Trajectory.endTime?_eq_some_iff.mp ended
    have finite := (loaded.isIncreasing vehicle member).2 last (List.mem_of_getLast? isLast)
    exact OrderedScalar.isNumber_of_isFinite finite
  rw [Store.maxEndTime, Store.maxEndTime, JunctionReplay.maxEndTime, JunctionReplay.maxEndTime,
    Machine.exactValue_foldl_larger Scalar.isNumber_zero numbers, ends]
  exact congrArg (List.foldl Scalar.larger · _) Machine.exactValue_zero.symm

/-- The copy of a store that was read lasts if the store does. -/
theorem maxEndTime_toExact_pos (loaded : IsLoaded store) (lasts : 0 < store.maxEndTime) :
    0 < store.toExact.maxEndTime := by
  rw [loaded.maxEndTime_toExact]
  exact Machine.exactValue_pos lasts

end Payload.IsLoaded

end JunctionReplay
