import JunctionReplay.Proofs.Selection
import JunctionReplay.Proofs.Session.Speed
import JunctionReplay.Proofs.Trajectory.Directions

/-!
# What a session remembers

All of a frame follows from the store, the sides that were set and the time, except the headings of
vehicles that stand.  Those the session remembers, and what it remembers is made up of the times of
the frames that it has shown since its last restart: a vehicle that stands heads to where it moved
at the last one of these times at which it did move.

So the list of headings, which every frame overwrites, is a summary of a history.  `Remembers` ties
the two together, `frameAt` says what a frame is, given the headings of the vehicles that stand, and
`PosesSeen` says what the headings are in terms of the history.

## Main Definitions

* `Store.frameAt` — a frame as it follows from the time and from headings of vehicles that stand.
* `Frame.PosesSeen` — what the headings of a frame are.

## Main Statements

* `Session.Remembers` — the headings that go with a history, with one lemma for each operation.
* `Session.run_remembers` — the frames of a run without restarts, and the history that they add.
* `Session.run_frames_since_restart` — the same for every run from the start.
-/

namespace JunctionReplay

variable {α : Type} [Scalar α] [Planar α]

/-! ## Headings of a history -/

namespace Trajectory

variable (vehicle : Trajectory α) (seen : List α) (time previous : α)

theorem nextHeading_eq :
    Session.nextHeading time vehicle previous =
      (vehicle.movingDirection? time).getD previous := by
  unfold Session.nextHeading movingDirection?
  cases vehicle.bracket? time with
  | none => rfl
  | some bracket =>
      simp only [Option.bind_some, Bracket.heading_eq]
      split <;> rfl

/-- The pose at a time stays the same when it has been seen. -/
theorem poseWith?_lastHeading_append_singleton :
    vehicle.poseWith? time (vehicle.lastHeading (seen ++ [time])) =
      vehicle.poseWith? time (vehicle.lastHeading seen) := by
  rw [lastHeading_append_singleton, poseWith?, poseWith?]
  cases vehicle.movingDirection? time <;> rfl

/-- Times at which nothing new is seen do not change the pose. -/
theorem poseWith?_lastHeading_append {again : List α} (same : ∀ other ∈ again, other = time) :
    vehicle.poseWith? time (vehicle.lastHeading (seen ++ again)) =
      vehicle.poseWith? time (vehicle.lastHeading seen) := by
  induction again generalizing seen with
  | nil => rw [List.append_nil]
  | cons other rest ih =>
      have head : other = time := same other List.mem_cons_self
      have tail := ih (seen ++ [time]) fun next member => same next (List.mem_cons_of_mem _ member)
      rw [head, List.append_cons, tail, poseWith?_lastHeading_append_singleton]

end Trajectory

/-- The frame at a time in which the vehicles that stand head as is given. -/
def Store.frameAt (store : Store α) (directions : Directions) (rest : Trajectory α → α)
    (time : α) : Frame α where
  time := time
  poses := store.vehicles.filterMap fun vehicle => vehicle.poseWith? time (rest vehicle)
  signals := store.signalsAt directions time
  metrics := Metrics.compute store.vehicles time

/-- A frame that is shown again is the same. -/
theorem Store.frameAt_append {store : Store α} {directions : Directions} {seen again : List α}
    {time : α} (same : ∀ other ∈ again, other = time) :
    store.frameAt directions (·.lastHeading (seen ++ again)) time =
      store.frameAt directions (·.lastHeading seen) time := by
  have poses (vehicle : Trajectory α) :=
    Trajectory.poseWith?_lastHeading_append vehicle seen time same
  simp only [Store.frameAt, poses]

/-- A frame has the poses of vehicles that were seen at some times before: one for each vehicle that
is on its way and does not end at the time of the frame, in the order of the store. -/
structure Frame.PosesSeen (store : Store α) (seen : List α) (frame : Frame α) : Prop where
  forall₂_poses : List.Forall₂ (fun vehicle pose => pose.IsOf vehicle seen frame.time)
    (store.vehicles.filter fun vehicle =>
      vehicle.isActiveAt frame.time && !vehicle.endsAt frame.time)
    frame.poses

/-- In frames the vehicles that stand head to where they were last seen to move. -/
theorem Store.posesSeen_frameAt [OrderedScalar α] {store : Store α}
    (increasing : ∀ vehicle ∈ store.vehicles, vehicle.IsIncreasing) (directions : Directions)
    (seen : List α) (time : α) :
    (store.frameAt directions (·.lastHeading seen) time).PosesSeen store seen := by
  have made := forall₂_filter_filterMap
    (fun vehicle => vehicle.poseWith? time (vehicle.lastHeading seen)) store.vehicles
  have sameVehicles : (store.vehicles.filter fun vehicle =>
      (vehicle.poseWith? time (vehicle.lastHeading seen)).isSome) =
        store.vehicles.filter fun vehicle =>
          vehicle.isActiveAt time && !vehicle.endsAt time := by
    simp only [Trajectory.poseWith?, Option.isSome_map]
    exact Trajectory.filter_isSome_bracket? increasing time
  rw [sameVehicles] at made
  have ofStore : ∀ vehicle ∈ store.vehicles.filter fun vehicle =>
      vehicle.isActiveAt time && !vehicle.endsAt time, vehicle.IsIncreasing :=
    fun vehicle member => increasing vehicle (List.mem_of_mem_filter member)
  refine ⟨((List.forall₂_and_left _ _).mpr ⟨ofStore, made⟩).imp ?_⟩
  rintro vehicle pose ⟨isIncreasing, found⟩
  exact isIncreasing.isOf_of_poseWith? found

namespace Session

/-! ## Remembering -/

variable {store : Store α} {directions : Directions} {seen : List α} {session next last : Session α}
  {op : Op α} {shown : Option (Frame α)} {frames : List (Frame α)}

/-- A session that has shown frames of a store at the times `seen` since it started. -/
structure Remembers (store : Store α) (directions : Directions) (seen : List α)
    (session : Session α) : Prop where
  store_eq : session.store = store
  directions_eq : session.directions = directions
  headings_eq : session.headings = store.vehicles.map fun vehicle => vehicle.lastHeading seen

namespace Remembers

theorem withClock (remembers : session.Remembers store directions seen) (clock : Clock α) :
    Remembers store directions seen { session with clock := clock } :=
  { remembers with }

theorem setSpeed (remembers : session.Remembers store directions seen) {speed : α}
    (set : session.setSpeed speed = .ok next) : next.Remembers store directions seen := by
  obtain ⟨allowed, -, rfl⟩ := setSpeed_eq_ok_iff.mp set
  exact remembers.withClock _

theorem advance (remembers : session.Remembers store directions seen) (delta : α) :
    (session.advance delta).Remembers store directions seen := by
  unfold Session.advance
  split
  · exact remembers.withClock _
  · exact remembers

theorem frame_eq (remembers : session.Remembers store directions seen) :
    session.frame = store.frameAt directions (·.lastHeading seen) session.clock.time := by
  have poses : posesAt session.clock.time session.store.vehicles session.headings =
      store.vehicles.filterMap fun vehicle =>
        vehicle.poseWith? session.clock.time (vehicle.lastHeading seen) := by
    rw [posesAt, remembers.store_eq, remembers.headings_eq, List.zip_eq_zipWith,
      List.zipWith_map_right, List.zipWith_self, List.filterMap_map]
    simp only [Function.comp_def, Trajectory.pose?_eq_poseWith?]
  rw [frame, poses, remembers.store_eq, remembers.directions_eq]
  rfl

/-- A frame that is shown adds its time to the history. -/
theorem afterFrame (remembers : session.Remembers store directions seen) :
    session.afterFrame.Remembers store directions (seen ++ [session.clock.time]) where
  store_eq := remembers.store_eq
  directions_eq := remembers.directions_eq
  headings_eq := by
    rw [Session.afterFrame, remembers.store_eq, remembers.headings_eq, List.zipWith_map_right,
      List.zipWith_self]
    simp only [Trajectory.lastHeading_append_singleton, Trajectory.nextHeading_eq]

/-- What is shown follows from the history, and is added to it. -/
theorem step (remembers : session.Remembers store directions seen) (unbroken : op ≠ .restart)
    (stepped : session.step op = .ok (next, shown)) :
    next.Remembers store directions (seen ++ shown.toList.map Frame.time) ∧
      ∀ frame ∈ shown, frame = store.frameAt directions (·.lastHeading seen) frame.time := by
  cases op with
  | restart => exact absurd rfl unbroken
  | play | pause | toggle =>
      cases stepped
      refine ⟨?_, fun _ member => nomatch member⟩
      rw [Option.toList_none, List.map_nil, List.append_nil]
      exact remembers.withClock _
  | setSpeed speed =>
      obtain ⟨set, rfl⟩ := step_setSpeed_eq_ok_iff.mp stepped
      refine ⟨?_, fun _ member => nomatch member⟩
      rw [Option.toList_none, List.map_nil, List.append_nil]
      exact remembers.setSpeed set
  | tick delta =>
      cases stepped
      have advanced := remembers.advance delta
      refine ⟨advanced.afterFrame, ?_⟩
      intro frame member
      cases member
      exact advanced.frame_eq
  | frame =>
      cases stepped
      refine ⟨remembers.afterFrame, ?_⟩
      intro frame member
      cases member
      exact remembers.frame_eq

end Remembers

/-! ## Runs -/

/-- A run without restarts shows what follows from the history and the frames that it has already
shown. -/
theorem run_remembers {ops : List (Op α)} (remembers : session.Remembers store directions seen)
    (unbroken : .restart ∉ ops) (ran : session.run ops = .ok (last, frames)) :
    last.Remembers store directions (seen ++ frames.map Frame.time) ∧
      ∀ earlier frame later, frames = earlier ++ frame :: later →
        frame =
          store.frameAt directions (·.lastHeading (seen ++ earlier.map Frame.time)) frame.time := by
  -- The first operation adds to the history from which the others go on, so it must be general.
  induction ops generalizing session seen frames with
  | nil =>
      cases ran
      rw [List.map_nil, List.append_nil]
      exact ⟨remembers, fun earlier frame later split => by simp at split⟩
  | cons op rest ih =>
      have notRestart : op ≠ .restart := fun same => unbroken (same ▸ List.mem_cons_self)
      have unbrokenRest : .restart ∉ rest := fun member => unbroken (List.mem_cons_of_mem _ member)
      obtain ⟨next, shown, between, stepped, ranRest, rfl⟩ := run_cons_eq_ok_iff.mp ran
      obtain ⟨remembersNext, shownNow⟩ := remembers.step notRestart stepped
      obtain ⟨remembersLast, shownLater⟩ := ih remembersNext unbrokenRest ranRest
      rw [List.map_append, ← List.append_assoc]
      refine ⟨remembersLast, fun earlier frame later split => ?_⟩
      -- A frame is either the one that the first operation shows, or a later one.
      cases shown with
      | none =>
          have sameSeen := shownLater earlier frame later split
          rwa [Option.toList_none, List.map_nil, List.append_nil] at sameSeen
      | some first =>
          cases earlier with
          | nil =>
              obtain ⟨rfl, -⟩ := List.cons.inj split
              rw [List.map_nil, List.append_nil]
              exact shownNow first rfl
          | cons head earlier =>
              obtain ⟨rfl, splitRest⟩ := List.cons.inj split
              rw [List.map_cons, List.append_cons]
              exact shownLater earlier frame later splitRest

/-- Frames that follow one at its time are the same frame again. -/
theorem eq_of_same_time
    (follow : ∀ earlier frame later, frames = earlier ++ frame :: later →
      frame = store.frameAt directions (·.lastHeading (earlier.map Frame.time)) frame.time)
    {earlier idle later : List (Frame α)} {frame again : Frame α}
    (split : frames = earlier ++ frame :: (idle ++ later))
    (sameTime : ∀ other ∈ idle, other.time = frame.time) (member : again ∈ idle) :
    again = frame := by
  obtain ⟨before, after, rfl⟩ := List.append_of_mem member
  have shownFrame := follow earlier frame _ split
  have shownAgain := follow (earlier ++ frame :: before) again (after ++ later) (by simp [split])
  have seenAgain : ∀ other ∈ (frame :: before).map Frame.time, other = frame.time := by
    intro other otherMember
    obtain ⟨between, betweenMember, rfl⟩ := List.mem_map.mp otherMember
    rcases List.mem_cons.mp betweenMember with rfl | betweenMember
    · rfl
    · exact sameTime between (List.mem_append_left _ betweenMember)
  rw [List.map_append, sameTime again member, Store.frameAt_append seenAgain] at shownAgain
  exact shownAgain.trans shownFrame.symm

variable {config : Config α} {first : Session α}

theorem remembers_of_start (started : start store config = .ok first) :
    first.Remembers store config.directions [] := by
  obtain ⟨speed, -, rfl⟩ := start_eq_ok_iff.mp started
  exact ⟨rfl, rfl, rfl⟩

/-- A restart begins a new history. -/
theorem remembers_restart (sound : session.IsSound store config) :
    session.restart.Remembers store config.directions [] where
  store_eq := sound.store_eq
  directions_eq := sound.directions_eq
  headings_eq := by
    rw [restart, restHeadings, sound.store_eq]
    rfl

variable [OrderedScalar α]

/-- At the start and after a restart a session has no history. -/
theorem run_of_fresh {before : List (Op α)} (usable : config.playback.IsUsable)
    (started : start store config = .ok first) (sound : first.IsSound store config)
    (fresh : before = [] ∨ before.getLast? = some .restart) :
    ∃ middle earlier, first.run before = .ok (middle, earlier) ∧
      middle.IsSound store config ∧ middle.Remembers store config.directions [] := by
  rcases fresh with rfl | restarted
  · exact ⟨first, [], rfl, sound, remembers_of_start started⟩
  · obtain ⟨ops, rfl⟩ := List.getLast?_eq_some_iff.mp restarted
    obtain ⟨middle, earlier, ran, soundMiddle⟩ := run_isSound usable sound ops
    have restarts : middle.run [.restart] = .ok (middle.restart, []) := rfl
    exact ⟨middle.restart, earlier ++ [], run_append ran restarts, soundMiddle.restart,
      remembers_restart soundMiddle⟩

/-- **What a session remembers.**  With settings that pass their check every run from the start
succeeds, and what it shows since its last restart, or since the start without one, follows from the
store, the sides that were set, the time of the frame and the times of the frames before it.  These
count only for the headings of vehicles that stand.

In samples that are strictly increasing in time, a vehicle moves if the two samples around the time
of the frame are further apart than a hundredth along an axis, and then it heads from the one to the
other.  A vehicle that stands heads to where it moved at the last of the times of the frames before
at which it did, or along the `x` axis if there is none.  Frames that follow one at its time are the
same frame again.

The operations `since` are any that follow a restart, or the start, up to the next restart, so that
every frame of a run is one of them. -/
theorem run_frames_since_restart (store : Store α) (config : Config α)
    (valid : config.playback.check = .ok ()) (before since : List (Op α))
    (fresh : before = [] ∨ before.getLast? = some .restart) (unbroken : .restart ∉ since) :
    ∃ first middle last earlier frames, start store config = .ok first ∧
      first.run before = .ok (middle, earlier) ∧ middle.run since = .ok (last, frames) ∧
      first.run (before ++ since) = .ok (last, earlier ++ frames) ∧
      (∀ shown frame later, frames = shown ++ frame :: later →
        frame = store.frameAt config.directions (·.lastHeading (shown.map Frame.time)) frame.time) ∧
      ((∀ vehicle ∈ store.vehicles, vehicle.IsIncreasing) →
        ∀ shown frame later, frames = shown ++ frame :: later →
          frame.PosesSeen store (shown.map Frame.time)) ∧
      ∀ shown frame idle later, frames = shown ++ frame :: (idle ++ later) →
        (∀ again ∈ idle, again.time = frame.time) → ∀ again ∈ idle, again = frame := by
  have usable := (PlaybackSettings.check_eq_ok_iff config.playback).mp valid
  obtain ⟨first, started, sound⟩ := start_isSound usable store
  obtain ⟨middle, earlier, ranBefore, soundMiddle, remembers⟩ :=
    run_of_fresh usable started sound fresh
  obtain ⟨last, frames, ranSince, -⟩ := run_isSound usable soundMiddle since
  have follow := (run_remembers remembers unbroken ranSince).2
  refine ⟨first, middle, last, earlier, frames, started, ranBefore, ranSince,
    run_append ranBefore ranSince, follow, ?_, ?_⟩
  · intro increasing shown frame later split
    rw [follow shown frame later split]
    exact Store.posesSeen_frameAt increasing _ _ _
  · intro shown frame idle later split sameTime again member
    exact eq_of_same_time follow split sameTime member

/-- A vehicle that stands, moves for a second and stands again, and did move before the restart. -/
theorem run_frames_since_restart_standing :
    let vehicle : Trajectory Float :=
      ⟨"vehicle", [⟨0.0, 0.0, 0.0, 0.0⟩, ⟨1.0, 0.0, 0.0, 1.0⟩, ⟨2.0, 0.0, 1.0, 0.0⟩,
        ⟨3.0, 0.0, 1.0, 0.0⟩]⟩
    let store : Store Float := ⟨[], [], [vehicle], [], [], none⟩
    let config : Config Float := .standard
    let before : List (Op Float) := [.tick 0.3, .restart]
    let since : List (Op Float) := [.frame, .tick 0.3, .pause, .toggle, .tick 0.2]
    let first : Session Float :=
      ⟨store, config.directions, config.playback, .start 5.0 true, [0.0]⟩
    let ahead : Float := Planar.direction (1.0 - 0.0) (0.0 - 0.0)
    config.playback.check = .ok () ∧ before.getLast? = some .restart ∧ .restart ∉ since ∧
      vehicle.IsIncreasing ∧ start store config = .ok first ∧
      ∃ middle last earlier waiting moving stopped, first.run before = .ok (middle, earlier) ∧
        middle.run since = .ok (last, [waiting, moving, stopped]) ∧
        waiting.time = 0.0 ∧ moving.time = 1.5 ∧ stopped.time = 2.5 ∧
        waiting.poses.map Pose.heading = [0.0] ∧ moving.poses.map Pose.heading = [ahead] ∧
        stopped.poses.map Pose.heading = [ahead] ∧ stopped.PosesSeen store [0.0, 1.5] := by
  intro vehicle store config before since first ahead
  have valid : config.playback.check = .ok () := by decide
  have fresh : before.getLast? = some .restart := rfl
  have unbroken : .restart ∉ since := by decide
  have increasing : vehicle.IsIncreasing := by
    unfold Trajectory.IsIncreasing
    decide +kernel
  have ofStore : ∀ other ∈ store.vehicles, other.IsIncreasing := by
    intro other member
    rw [List.mem_singleton.mp member]
    exact increasing
  have started : start store config = .ok first := by decide +kernel
  obtain ⟨begun, middle, last, earlier, frames, begins, ranBefore, ranSince, -, follow, seen, -⟩ :=
    run_frames_since_restart store config valid before since (Or.inr fresh) unbroken
  obtain rfl := Except.ok.inj (begins.symm.trans started)
  have shows : ∃ waiting moving stopped, frames = [waiting, moving, stopped] ∧
      waiting.time = 0.0 ∧ moving.time = 1.5 ∧ stopped.time = 2.5 := by
    cases ranBefore
    cases ranSince
    exact ⟨_, _, _, rfl, by decide +kernel, by decide +kernel, by decide +kernel⟩
  obtain ⟨waiting, moving, stopped, rfl, waitingTime, movingTime, stoppedTime⟩ := shows
  have isWaiting := follow [] waiting [moving, stopped] rfl
  have isMoving := follow [waiting] moving [stopped] rfl
  have isStopped := follow [waiting, moving] stopped [] rfl
  have stoppedSeen := seen ofStore [waiting, moving] stopped [] rfl
  simp only [List.map_cons, List.map_nil, waitingTime, movingTime, stoppedTime]
    at isWaiting isMoving isStopped stoppedSeen
  refine ⟨valid, fresh, unbroken, increasing, started, middle, last, earlier, waiting, moving,
    stopped, ranBefore, ranSince, waitingTime, movingTime, stoppedTime, ?_, ?_, ?_, stoppedSeen⟩
  · rw [isWaiting]
    rfl
  · rw [isMoving]
    rfl
  · rw [isStopped]
    rfl

end Session

end JunctionReplay
