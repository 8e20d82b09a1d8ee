import Mathlib.Data.List.Forall2
import JunctionReplay.Proofs.Session.Progress
import JunctionReplay.Proofs.Session.Replay
import JunctionReplay.Proofs.Trajectory.Brackets

/-!
# Poses of the vehicles on their way

The vehicles that a frame counts as on their way and those that it has poses for are found in
different ways: the former by the ends of their samples, both included, the latter by a search for
two samples around the time.  They are the same vehicles, but for those whose last sample is at the
time of the frame, which are counted and no longer seen.

A frame finds the former heading of a vehicle by the place of the vehicle in the store.  So that no
vehicle is lost there has to be a heading for each of them, which is what a session keeps up.

## Main Definitions

* `Trajectory.LooksUp` — what is found for a vehicle at a time.
* `Frame.Shows` — a frame shows the vehicles of a store.
* `Frame.PosesActive` — a frame has a pose for each vehicle on its way that does not end there.

## Main Statements

* `Session.forall₂_posesAt` — the poses are those of the vehicles that are found in a bracket.
* `Session.run_shows` — all frames of a run show the vehicles of the store.
* `Session.run_frames_pose_active` — what is found for vehicles, and what this means for frames.
-/

namespace JunctionReplay

variable {α : Type} [Scalar α]

/-! ## Poses of vehicles -/

/-- What is found at a time in samples that are strictly increasing in time. -/
structure Trajectory.LooksUp [Planar α] (trajectory : Trajectory α) (time : α) : Prop where
  /-- There is a pose exactly from the first sample on and before the last one. -/
  isSome_pose?_iff : ∀ previous, (trajectory.pose? time previous).isSome ↔
    ∃ start finish, trajectory.startTime? = some start ∧ trajectory.endTime? = some finish ∧
      start ≤ time ∧ time < finish
  /-- A pose is that of the only bracket that holds the time. -/
  pose_eq : ∀ previous pose, trajectory.pose? time previous = some pose →
    ∃ place bracket, trajectory.IsBetween time place bracket ∧
      (∀ other otherBracket, trajectory.IsBetween time other otherBracket →
        other = place ∧ otherBracket = bracket) ∧
      pose = ⟨trajectory.id, bracket.position time, bracket.heading previous,
        bracket.current.speed⟩ ∧
      trajectory.speedAt? time = some pose.speed
  /-- The speed is that of the last sample that is not later, or of the first sample. -/
  speedAt?_eq : trajectory.speedAt? time =
    ((trajectory.samples.filter fun sample => sample.time ≤ time).getLast?.or
      trajectory.samples.head?).map Sample.speed

/-- A frame shows the vehicles of a store at its time, each of them with the heading that it had
before. -/
structure Frame.Shows [Planar α] (store : Store α) (frame : Frame α) : Prop where
  poses_eq : ∃ headings, headings.length = store.vehicles.length ∧
    frame.poses = Session.posesAt frame.time store.vehicles headings
  metrics_eq : frame.metrics = Metrics.compute store.vehicles frame.time

/-- A frame has the poses of the vehicles that it counts as on their way, but for those that end at
its time. -/
structure Frame.PosesActive [Planar α] (store : Store α) (frame : Frame α) : Prop where
  /-- One pose for each of these vehicles, in the order of the store. -/
  forall₂_poses : List.Forall₂
    (fun vehicle pose => ∃ previous, vehicle.pose? frame.time previous = some pose)
    ((Metrics.activeVehicles store.vehicles frame.time).filter
      fun vehicle => !vehicle.endsAt frame.time)
    frame.poses
  active_eq : frame.metrics.active = (Metrics.activeVehicles store.vehicles frame.time).length
  length_poses_add : frame.poses.length +
    store.vehicles.countP (fun vehicle => vehicle.endsAt frame.time) = frame.metrics.active

theorem Trajectory.IsIncreasing.looksUp [OrderedScalar α] [Planar α] {trajectory : Trajectory α}
    (increasing : trajectory.IsIncreasing) (time : α) : trajectory.LooksUp time where
  isSome_pose?_iff previous := by
    rw [pose?, Option.isSome_map, Option.isSome_iff_exists]
    exact increasing.exists_bracket?_iff
  pose_eq previous pose found := by
    obtain ⟨place, bracket, between, rfl⟩ := increasing.pose?_eq_some_iff.mp found
    exact ⟨place, bracket, between, fun _ _ => between.unique increasing, rfl,
      between.speedAt?_eq increasing⟩
  speedAt?_eq := increasing.speedAt?_eq time

namespace Session

/-- The vehicles that are found in a bracket have a pose each, in their order. -/
theorem forall₂_posesAt [Planar α] (time : α) {vehicles : List (Trajectory α)} {headings : List α}
    (sameLength : headings.length = vehicles.length) :
    List.Forall₂ (fun vehicle pose => ∃ previous, vehicle.pose? time previous = some pose)
      (vehicles.filter fun vehicle => (vehicle.bracket? time).isSome)
      (posesAt time vehicles headings) := by
  -- The headings are general, since each vehicle takes its own one off the list.
  induction vehicles generalizing headings with
  | nil => exact .nil
  | cons vehicle rest ih =>
      cases headings with
      | nil => cases sameLength
      | cons heading others =>
          have posesRest := ih (Nat.succ.inj sameLength)
          rw [posesAt, List.zip_cons_cons, List.filterMap_cons, List.filter_cons, Trajectory.pose?]
          cases found : vehicle.bracket? time with
          | none => exact posesRest
          | some bracket =>
              refine .cons ⟨heading, ?_⟩ posesRest
              rw [Trajectory.pose?, found]
              rfl

end Session

/-- What a frame shows are poses of vehicles of the store. -/
theorem Frame.Shows.exists_pose? [Planar α] {store : Store α} {frame : Frame α} {pose : Pose α}
    (shows : frame.Shows store) (member : pose ∈ frame.poses) :
    ∃ vehicle ∈ store.vehicles, ∃ previous, vehicle.pose? frame.time previous = some pose := by
  obtain ⟨headings, -, poses⟩ := shows.poses_eq
  rw [poses] at member
  obtain ⟨⟨vehicle, previous⟩, known, found⟩ := List.mem_filterMap.mp member
  exact ⟨vehicle, (List.of_mem_zip known).1, previous, found⟩

/-! ## Vehicles on their way -/

section

variable [OrderedScalar α] {store : Store α} {time : α}

/-- The vehicles that are found in a bracket are those on their way that do not end there. -/
theorem Store.IsInOrder.filter_bracket? (inOrder : store.IsInOrder) (time : α) :
    store.vehicles.filter (fun vehicle => (vehicle.bracket? time).isSome) =
      (Metrics.activeVehicles store.vehicles time).filter
        fun vehicle => !vehicle.endsAt time := by
  rw [Trajectory.filter_isSome_bracket? inOrder.isIncreasing, Metrics.activeVehicles,
    List.filter_filter]
  simp only [Bool.and_comm]

/-- All vehicles that end at a time are on their way there. -/
theorem Store.IsInOrder.countP_endsAt (inOrder : store.IsInOrder) (time : α) :
    store.vehicles.countP (fun vehicle => vehicle.endsAt time) =
      (Metrics.activeVehicles store.vehicles time).countP fun vehicle => vehicle.endsAt time := by
  rw [Metrics.activeVehicles, List.countP_filter]
  refine List.countP_congr fun vehicle member => ?_
  have numbers : ∀ sample ∈ vehicle.samples, Scalar.IsNumber sample.time := fun sample listed =>
    OrderedScalar.isNumber_of_isFinite (inOrder.isFinite vehicle member sample listed)
  have onItsWay : vehicle.endsAt time → vehicle.isActiveAt time :=
    (inOrder.isIncreasing vehicle member).isActiveAt_of_endsAt numbers
  simpa using onItsWay

theorem Frame.Shows.posesActive [Planar α] {frame : Frame α} (shows : frame.Shows store)
    (inOrder : store.IsInOrder) : frame.PosesActive store := by
  obtain ⟨headings, sameLength, poses⟩ := shows.poses_eq
  have paired := Session.forall₂_posesAt frame.time sameLength
  rw [inOrder.filter_bracket? frame.time, ← poses] at paired
  have active : frame.metrics.active =
      (Metrics.activeVehicles store.vehicles frame.time).length := by
    rw [shows.metrics_eq]
    rfl
  refine ⟨paired, active, ?_⟩
  rw [active, inOrder.countP_endsAt, ← paired.length_eq, ← List.countP_eq_length_filter,
    List.length_eq_countP_add_countP fun vehicle => vehicle.endsAt frame.time, Nat.add_comm]
  simp

end

namespace Session

variable {store : Store α} {config : Config α} {session first : Session α}

/-! ## Runs -/

/-- A session replays a store and has a heading for each of its vehicles. -/
structure ReplaysAll (store : Store α) (config : Config α) (session : Session α) : Prop
    extends Replays store config session where
  length_headings : session.headings.length = store.vehicles.length

theorem start_replaysAll (started : start store config = .ok first) :
    first.ReplaysAll store config := by
  obtain ⟨replays, -, -, headings⟩ := start_replays started
  refine ⟨replays, ?_⟩
  rw [headings, restHeadings, List.length_map]

namespace ReplaysAll

theorem withClock (replays : session.ReplaysAll store config) (clock : Clock α) :
    ReplaysAll store config { session with clock := clock } :=
  { replays with }

theorem restart (replays : session.ReplaysAll store config) :
    session.restart.ReplaysAll store config where
  toReplays := { replays with }
  length_headings := by
    rw [Session.restart, restHeadings, List.length_map, replays.store_eq]

theorem advance (replays : session.ReplaysAll store config) (delta : α) :
    (session.advance delta).ReplaysAll store config := by
  unfold Session.advance
  split
  · exact replays.withClock _
  · exact replays

variable [Planar α]

theorem afterFrame (replays : session.ReplaysAll store config) :
    session.afterFrame.ReplaysAll store config where
  toReplays := replays.withHeadings _
  length_headings := by
    rw [Session.afterFrame, List.length_zipWith, replays.store_eq, replays.length_headings,
      Nat.min_self]

theorem shows_frame (replays : session.ReplaysAll store config) :
    session.frame.Shows store where
  poses_eq := ⟨session.headings, replays.length_headings, by rw [frame, replays.store_eq]⟩
  metrics_eq := by rw [frame, replays.store_eq]

end ReplaysAll

variable [Planar α]

/-- An operation keeps a heading for each vehicle, and what it shows are the vehicles. -/
theorem step_replaysAll (replays : session.ReplaysAll store config) (op : Op α) :
    ∃ next shown, session.step op = .ok (next, shown) ∧ next.ReplaysAll store config ∧
      ∀ frame ∈ shown, frame.Shows store := by
  cases op with
  | play | pause | toggle => exact ⟨_, _, rfl, replays.withClock _, nofun⟩
  | restart => exact ⟨_, _, rfl, replays.restart, nofun⟩
  | setSpeed speed =>
      obtain ⟨clock, set⟩ := replays.exists_setSpeed_eq speed
      exact ⟨_, none, step_setSpeed_eq_ok_iff.mpr ⟨set, rfl⟩, replays.withClock clock, nofun⟩
  | tick delta =>
      have advanced := replays.advance delta
      refine ⟨_, _, rfl, advanced.afterFrame, ?_⟩
      rintro frame ⟨⟩
      exact advanced.shows_frame
  | frame =>
      refine ⟨_, _, rfl, replays.afterFrame, ?_⟩
      rintro frame ⟨⟩
      exact replays.shows_frame

/-- All frames of a run show the vehicles of the store. -/
theorem run_shows (started : start store config = .ok first) (ops : List (Op α)) :
    ∃ last frames, first.run ops = .ok (last, frames) ∧ ∀ frame ∈ frames, frame.Shows store := by
  obtain ⟨last, frames, ran, -, shows⟩ :=
    run_shows_of_step (fun _ => step_replaysAll) (start_replaysAll started) ops
  exact ⟨last, frames, ran, shows⟩

/-! ## Stores that were read -/

/-- **Poses and metrics agree.**  In samples that are strictly increasing in time there is a pose at
a time, which may be infinite or undefined, exactly from the first sample on and before the last
one.  It is that of the only bracket that holds the time, at the speed of the first sample of the
bracket, which is the speed that is found at the time.

So on a store that was read from a payload every frame of every run has one pose for each vehicle
that it counts as on its way, in the order of the store, but for those whose last sample is at the
time of the frame: these are what the poses lack to the count. -/
theorem run_frames_pose_active :
    (∀ trajectory : Trajectory Float, trajectory.IsIncreasing →
      ∀ time, trajectory.LooksUp time) ∧
    ∀ store, Payload.IsLoaded store → ∀ (config : Config Float) (first : Session Float),
      start store config = .ok first → ∀ ops, ∃ last frames,
        first.run ops = .ok (last, frames) ∧ ∀ frame ∈ frames, frame.PosesActive store := by
  constructor
  · intro trajectory increasing time
    exact increasing.looksUp time
  · intro store loaded config first started ops
    obtain ⟨last, frames, ran, shows⟩ := run_shows started ops
    exact ⟨last, frames, ran, fun frame member => (shows frame member).posesActive loaded.isInOrder⟩

set_option maxRecDepth 4000 in
/-- A vehicle that ends at the time of the frame and one that drives on, and the look-up of the
latter at an undefined time. -/
theorem run_frames_pose_active_at_end :
    let text :=
      "\x7b\x22vehicles\x22:[\x7b\x22id\x22:\x22ends\x22,\x22positions\x22:[
        \x7b\x22time\x22:0,\x22x\x22:0,\x22y\x22:0\x7d,
        \x7b\x22time\x22:1,\x22x\x22:4,\x22y\x22:0\x7d]\x7d,
        \x7b\x22id\x22:\x22drives\x22,\x22positions\x22:[
        \x7b\x22time\x22:0,\x22x\x22:0,\x22y\x22:0\x7d,
        \x7b\x22time\x22:2,\x22x\x22:0,\x22y\x22:4\x7d]\x7d]\x7d"
    let drives : Trajectory Float := ⟨"drives", [⟨0.0, 0.0, 0.0, 0.0⟩, ⟨2.0, 0.0, 4.0, 0.0⟩]⟩
    let store : Store Float :=
      ⟨[], [], [⟨"ends", [⟨0.0, 0.0, 0.0, 0.0⟩, ⟨1.0, 4.0, 0.0, 0.0⟩]⟩, drives], [], [], none⟩
    let config : Config Float := .standard
    let first : Session Float :=
      ⟨store, config.directions, config.playback, .start 5.0 true, [0.0, 0.0]⟩
    drives.IsIncreasing ∧ drives.LooksUp Machine.undefined ∧
      Payload.storeOfText text .standard .standard = .ok (.ok store) ∧
      start store config = .ok first ∧
      ∃ last frame, first.run [.tick 0.2] = .ok (last, [frame]) ∧ frame.PosesActive store ∧
        frame.time = 1.0 ∧ frame.metrics.active = 2 ∧
        frame.poses.map Pose.vehicle = ["drives"] := by
  intro text drives store config first
  have increasing : drives.IsIncreasing := by
    unfold Trajectory.IsIncreasing
    decide +kernel
  have loaded : Payload.storeOfText text .standard .standard = .ok (.ok store) :=
    Payload.storeOfText_of_document (by decide +kernel)
  have started : start store config = .ok first := by decide +kernel
  obtain ⟨looksUp, posesActive⟩ := run_frames_pose_active
  obtain ⟨last, frames, ran, active⟩ :=
    posesActive store ⟨text, .standard, .standard, loaded⟩ config first started [.tick 0.2]
  cases ran
  exact ⟨increasing, looksUp drives increasing _, loaded, started, _, _, rfl,
    active _ (List.mem_singleton.mpr rfl), by decide +kernel, by decide +kernel, by decide +kernel⟩

end Session

end JunctionReplay
