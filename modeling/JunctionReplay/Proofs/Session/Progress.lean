import JunctionReplay.Proofs.Payload.Stores
import JunctionReplay.Proofs.Session.ElapsedTime
import JunctionReplay.Proofs.Session.End
import JunctionReplay.Proofs.Trajectory.Stages

/-!
# The progress of a replay

What the figures of a frame tell follows from its time, so they go on as the time does.  As long as
a session is not restarted its time does not go back, whatever its pace and whatever deltas it
refuses, and with it the share of the time that has passed, the vehicles that have arrived and those
that have started only grow.  What the store as a whole has, its vehicles and its end, stays the
same.

## Main Definitions

* `Frame.GoesOn` — what a later frame has in relation to an earlier one.
* `Frame.IsInStep` — how the figures of a frame go with its time.

## Main Statements

* `Session.run_times` — the times of a run without restarts.
* `Frame.goesOn`, `Frame.isInStep` — the figures of two times, and of one.
* `Session.run_frames_progress` — what this means for the frames of a store that was read.
-/

namespace JunctionReplay

open Scalar (IsNumber)

variable {α : Type} [Scalar α]

/-- A frame follows an earlier one of the same store. -/
structure Frame.GoesOn (earlier later : Frame α) : Prop where
  time_le : earlier.time ≤ later.time
  progress_le : earlier.metrics.progress ≤ later.metrics.progress
  completed_le : earlier.metrics.completed ≤ later.metrics.completed
  started_le : earlier.metrics.active + earlier.metrics.completed ≤
    later.metrics.active + later.metrics.completed
  total_eq : earlier.metrics.total = later.metrics.total
  totalTime_eq : earlier.metrics.totalTime = later.metrics.totalTime

/-- The figures of a frame go with its time. -/
structure Frame.IsInStep (store : Store α) (frame : Frame α) : Prop where
  progress_nonneg : 0 ≤ frame.metrics.progress
  progress_le_one : frame.metrics.progress ≤ 1
  /-- At the end of the store all of the time has passed. -/
  progress_eq_one :
    0 < frame.metrics.totalTime → frame.metrics.totalTime ≤ frame.time → frame.metrics.progress = 1
  /-- After the end of the store every vehicle with samples has arrived. -/
  arrived :
    frame.metrics.totalTime < frame.time → frame.metrics.active = 0 ∧
      frame.metrics.completed = store.vehicles.countP fun vehicle => !vehicle.samples.isEmpty

/-! ## Shares of the time -/

section

variable [MonotoneScalar α] {time later total : α}

namespace Metrics

omit [MonotoneScalar α] in
theorem share_of_pos (positive : 0 < total) : share time total = Scalar.clamp 0 1 (time / total) :=
  if_pos positive

variable (finite : Scalar.isFinite total)

include finite

theorem share_bounds (nonneg : 0 ≤ time) : 0 ≤ share time total ∧ share time total ≤ 1 := by
  by_cases positive : 0 < total
  · have number : IsNumber (time / total) := MonotoneScalar.div_le_div nonneg
      (OrderedScalar.isNumber_of_le nonneg).2 positive finite
    rw [share_of_pos positive]
    exact ⟨Scalar.le_clamp MonotoneScalar.zero_le_one number,
      Scalar.clamp_le MonotoneScalar.zero_le_one number⟩
  · rw [share, if_neg positive]
    exact ⟨Scalar.isNumber_zero, MonotoneScalar.zero_le_one⟩

/-- The share of the time that has passed grows with the time. -/
theorem share_mono (nonneg : 0 ≤ time) (le : time ≤ later) :
    share time total ≤ share later total := by
  by_cases positive : 0 < total
  · rw [share_of_pos positive, share_of_pos positive]
    exact Scalar.clamp_mono MonotoneScalar.zero_le_one
      (MonotoneScalar.div_le_div nonneg le positive finite)
  · rw [share, share, if_neg positive, if_neg positive]
    exact Scalar.isNumber_zero

/-- From the end on the whole time has passed. -/
theorem share_eq_one_of_le (positive : 0 < total) (reached : total ≤ time) :
    share time total = 1 := by
  have whole : 1 ≤ time / total := MonotoneScalar.one_le_div reached positive finite
  rw [share_of_pos positive]
  by_cases beyond : 1 < time / total
  · exact Scalar.clamp_of_lt MonotoneScalar.zero_le_one beyond
  · have numbers := OrderedScalar.isNumber_of_le whole
    have upper := Scalar.le_of_not_lt numbers.2 numbers.1 beyond
    rw [Scalar.clamp_of_le_of_le (OrderedScalar.le_trans MonotoneScalar.zero_le_one whole) upper]
    exact MonotoneScalar.eq_one_of_le_of_le whole upper

end Metrics

/-! ## Figures -/

/-- The samples of a store are in order and have finite times. -/
structure Store.IsInOrder (store : Store α) : Prop where
  isIncreasing : ∀ vehicle ∈ store.vehicles, vehicle.IsIncreasing
  isFinite : ∀ vehicle ∈ store.vehicles, ∀ sample ∈ vehicle.samples, Scalar.isFinite sample.time

variable {store : Store α} {frame earlier next : Frame α}

theorem Store.IsInOrder.isNumber (inOrder : store.IsInOrder) :
    ∀ vehicle ∈ store.vehicles, ∀ sample ∈ vehicle.samples, IsNumber sample.time :=
  fun vehicle member sample listed =>
    OrderedScalar.isNumber_of_isFinite (inOrder.isFinite vehicle member sample listed)

/-- The frames of a store go on as their times do. -/
theorem Frame.goesOn (inOrder : store.IsInOrder)
    (figures : earlier.metrics = Metrics.compute store.vehicles earlier.time)
    (figuresNext : next.metrics = Metrics.compute store.vehicles next.time)
    (nonneg : 0 ≤ earlier.time) (le : earlier.time ≤ next.time) : earlier.GoesOn next where
  time_le := le
  progress_le := by
    rw [figures, figuresNext]
    exact Metrics.share_mono (isFinite_maxEndTime inOrder.isFinite) nonneg le
  completed_le := by
    rw [figures, figuresNext]
    exact Metrics.length_completedVehicles_mono store.vehicles le
  started_le := by
    rw [figures, figuresNext]
    simp only [Metrics.compute, Metrics.length_active_add_completed]
    exact Metrics.countP_hasStarted_mono inOrder.isIncreasing inOrder.isNumber le
  total_eq := by rw [figures, figuresNext]; rfl
  totalTime_eq := by rw [figures, figuresNext]; rfl

/-- The figures of a frame of a store go with its time. -/
theorem Frame.isInStep (inOrder : store.IsInOrder)
    (figures : frame.metrics = Metrics.compute store.vehicles frame.time)
    (nonneg : 0 ≤ frame.time) : frame.IsInStep store := by
  have finite := isFinite_maxEndTime inOrder.isFinite
  have bounds := Metrics.share_bounds finite nonneg
  exact
    { progress_nonneg := by
        rw [figures]
        exact bounds.1
      progress_le_one := by
        rw [figures]
        exact bounds.2
      progress_eq_one := by
        rw [figures]
        exact Metrics.share_eq_one_of_le finite
      arrived := by
        rw [figures]
        intro after
        have ended : store.HasEnded frame.time := by
          refine Store.hasEnded_of_maxEndTime_lt ?_ after
          intro vehicle member finish ends
          obtain ⟨last, isLast, rfl⟩ := Trajectory.endTime?_eq_some_iff.mp ends
          exact inOrder.isNumber vehicle member last (List.mem_of_getLast? isLast)
        refine ⟨congrArg List.length (Metrics.activeVehicles_eq_nil ended), ?_⟩
        rw [List.countP_eq_length_filter]
        exact congrArg List.length (Metrics.completedVehicles_eq ended) }

/-! ## Runs -/

namespace Session

variable {config : Config α} {session next last : Session α} [Planar α]

omit [MonotoneScalar α] in
/-- The frame that an operation shows is one of the time that it leaves. -/
theorem shown_of_step {op : Op α} {shown : Option (Frame α)}
    (stepped : session.step op = .ok (next, shown)) :
    ∀ frame ∈ shown, frame.time = next.clock.time ∧
      frame.metrics = Metrics.compute next.store.vehicles frame.time := by
  cases op with
  | setSpeed speed =>
      obtain ⟨-, rfl⟩ := step_setSpeed_eq_ok_iff.mp stepped
      exact fun frame member => absurd member (Option.not_mem_none frame)
  | play | pause | toggle | restart =>
      cases stepped
      exact fun frame member => absurd member (Option.not_mem_none frame)
  | tick delta | frame =>
      cases stepped
      rintro frame ⟨⟩
      exact ⟨rfl, rfl⟩

/-- Without a restart time does not go back. -/
theorem step_time (usable : config.playback.IsUsable) (sound : session.IsSound store config)
    (nonneg : 0 ≤ session.clock.time) {op : Op α} (unbroken : op ≠ .restart) :
    ∃ next shown, session.step op = .ok (next, shown) ∧ next.IsSound store config ∧
      session.clock.time ≤ next.clock.time := by
  obtain ⟨next, shown, stepped, soundNext, -, time⟩ := step_clock usable sound op
  refine ⟨next, shown, stepped, soundNext, ?_⟩
  rw [time]
  exact Store.le_timeAfter (usable.isFinite_of_allows sound.allows_speed)
    (usable.pos_of_allows sound.allows_speed) nonneg (mt Op.isRestart_iff.mp unbroken)

/-- The frames of a run without restarts are of the time of the session or later, each of them of
the time of the one before or later. -/
theorem run_times (usable : config.playback.IsUsable) (sound : session.IsSound store config)
    (nonneg : 0 ≤ session.clock.time) {ops : List (Op α)} (unbroken : .restart ∉ ops) :
    ∃ last frames, session.run ops = .ok (last, frames) ∧
      (∀ frame ∈ frames, session.clock.time ≤ frame.time ∧
        frame.metrics = Metrics.compute store.vehicles frame.time) ∧
      frames.Pairwise fun earlier later => earlier.time ≤ later.time := by
  induction ops generalizing session with
  | nil => exact ⟨session, [], rfl, nofun, .nil⟩
  | cons op rest ih =>
      obtain ⟨notFirst, notRest⟩ := not_or.mp (mt List.mem_cons.mpr unbroken)
      obtain ⟨next, shown, stepped, soundNext, le⟩ :=
        step_time usable sound nonneg (Ne.symm notFirst)
      obtain ⟨last, frames, ran, ofTimes, ordered⟩ :=
        ih soundNext (OrderedScalar.le_trans nonneg le) notRest
      have now := shown_of_step stepped
      rw [soundNext.store_eq] at now
      refine ⟨last, shown.toList ++ frames, run_cons_of_ok stepped ran, ?_, ?_⟩
      · intro frame member
        rcases List.mem_append.mp member with first | later
        · obtain ⟨time, figures⟩ := now frame (Option.mem_toList.mp first)
          exact ⟨time ▸ le, figures⟩
        · obtain ⟨notBefore, figures⟩ := ofTimes frame later
          exact ⟨OrderedScalar.le_trans le notBefore, figures⟩
      · refine List.pairwise_append.mpr ⟨?_, ordered, ?_⟩
        · cases shown with
          | none => exact .nil
          | some frame => exact List.pairwise_singleton _ _
        · intro frame member later laterMember
          rw [(now frame (Option.mem_toList.mp member)).1]
          exact (ofTimes later laterMember).1

/-- The frames of a run without restarts go on from each other. -/
theorem run_goesOn (inOrder : store.IsInOrder) (usable : config.playback.IsUsable)
    (sound : session.IsSound store config) (nonneg : 0 ≤ session.clock.time) {ops : List (Op α)}
    (unbroken : .restart ∉ ops) :
    ∃ last frames, session.run ops = .ok (last, frames) ∧ frames.Pairwise Frame.GoesOn ∧
      ∀ frame ∈ frames, frame.IsInStep store := by
  obtain ⟨last, frames, ran, ofTimes, ordered⟩ := run_times usable sound nonneg unbroken
  have nonnegTime (frame : Frame α) (member : frame ∈ frames) : 0 ≤ frame.time :=
    OrderedScalar.le_trans nonneg (ofTimes frame member).1
  refine ⟨last, frames, ran, ?_, ?_⟩
  · refine ordered.imp_of_mem ?_
    intro earlier later earlierMember laterMember le
    exact Frame.goesOn inOrder (ofTimes earlier earlierMember).2 (ofTimes later laterMember).2
      (nonnegTime earlier earlierMember) le
  · intro frame member
    exact Frame.isInStep inOrder (ofTimes frame member).2 (nonnegTime frame member)

end Session

end

/-! ## Stores that were read -/

theorem Payload.IsLoaded.isInOrder {store : Store Float} (loaded : IsLoaded store) :
    store.IsInOrder where
  isIncreasing vehicle member := (loaded.isIncreasing vehicle member).1
  isFinite vehicle member := (loaded.isIncreasing vehicle member).2

/-- **The progress of a replay.**  On a store that was read from a payload, with settings that pass
their check, and whatever was done before: over the frames of a run without restarts the time, the
share of it that has passed, the vehicles that have arrived, and these together with the vehicles on
their way never decrease, while the number of vehicles and the end of the store stay the same.  The
share lies between zero and one and is one from the end on; after the end no vehicle is on its way
and those with samples have arrived.  A vehicle without samples is never one of them. -/
theorem Session.run_frames_progress {store : Store Float} (loaded : Payload.IsLoaded store)
    (config : Config Float) (valid : config.playback.check = .ok ())
    (before since : List (Op Float)) (unbroken : .restart ∉ since) :
    ∃ first middle last earlier frames, start store config = .ok first ∧
      first.run before = .ok (middle, earlier) ∧ middle.run since = .ok (last, frames) ∧
      frames.Pairwise Frame.GoesOn ∧ (∀ frame ∈ frames, frame.IsInStep store) ∧
      ∀ vehicle ∈ store.vehicles, vehicle.samples = [] → ∀ time,
        vehicle.isActiveAt time = false ∧ vehicle.isCompletedAt time = false := by
  have usable := (PlaybackSettings.check_eq_ok_iff config.playback).mp valid
  obtain ⟨first, middle, earlier, started, ranBefore, sound, nonneg⟩ :=
    exists_run_time_nonneg usable store before
  obtain ⟨last, frames, ranSince, goOn, inStep⟩ :=
    run_goesOn loaded.isInOrder usable sound nonneg unbroken
  exact ⟨first, middle, last, earlier, frames, started, ranBefore, ranSince, goOn, inStep,
    fun vehicle _ => Trajectory.stages_of_samples_eq_nil⟩

set_option maxRecDepth 4000 in
/-- A vehicle that starts late and one without samples, with a pause and a change of speed. -/
theorem Session.run_frames_progress_two_vehicles :
    let text :=
      "\x7b\x22vehicles\x22:[\x7b\x22id\x22:\x22late\x22,\x22positions\x22:[
        \x7b\x22time\x22:1,\x22x\x22:0,\x22y\x22:0\x7d,
        \x7b\x22time\x22:2,\x22x\x22:4,\x22y\x22:0\x7d]\x7d,
        \x7b\x22id\x22:\x22absent\x22\x7d]\x7d"
    let store : Store Float :=
      ⟨[], [], [⟨"late", [⟨1.0, 0.0, 0.0, 0.0⟩, ⟨2.0, 4.0, 0.0, 0.0⟩]⟩, ⟨"absent", []⟩], [], [],
        none⟩
    let config : Config Float := .standard
    let before : List (Op Float) := [.tick 0.1, .restart]
    let since : List (Op Float) :=
      [.frame, .tick 0.25, .pause, .tick 1.0, .toggle, .setSpeed 2.0, .tick (-1.0), .tick 0.5]
    Payload.storeOfText text .standard .standard = .ok (.ok store) ∧
      config.playback.check = .ok () ∧ .restart ∉ since ∧
      ∃ first middle last earlier frames, start store config = .ok first ∧
        first.run before = .ok (middle, earlier) ∧ middle.run since = .ok (last, frames) ∧
        frames.Pairwise Frame.GoesOn ∧ ∀ frame ∈ frames, frame.IsInStep store := by
  intro text store config before since
  have loaded : Payload.storeOfText text .standard .standard = .ok (.ok store) :=
    Payload.storeOfText_of_document (by decide +kernel)
  have valid : config.playback.check = .ok () := by decide
  have unbroken : .restart ∉ since := by decide
  obtain ⟨first, middle, last, earlier, frames, started, ranBefore, ranSince, goOn, inStep, -⟩ :=
    run_frames_progress ⟨text, .standard, .standard, loaded⟩ config valid before since unbroken
  exact ⟨loaded, valid, unbroken, first, middle, last, earlier, frames, started, ranBefore,
    ranSince, goOn, inStep⟩

end JunctionReplay
