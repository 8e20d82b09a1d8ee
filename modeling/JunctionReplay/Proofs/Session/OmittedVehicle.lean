import Mathlib.Data.List.Forall2
import JunctionReplay.Proofs.Session.Replay
import JunctionReplay.Scalar.Machine

/-!
# Vehicles do not interfere

Two sessions, one of them on a store that lacks a vehicle of the other one, go through the same
operations.  As long as both have something to replay, nothing of what they show tells them apart
but the missing vehicle.

A session keeps the headings of its vehicles in a list of its own, and a vehicle finds its heading
there by its place among the vehicles.  Without the vehicle all later ones stand one place earlier,
in both lists: so what has to be kept up from operation to operation is that the headings are split
at the same place as the vehicles.

## Main Definitions

* `Frame.Omits` — a frame is another one without the pose of a vehicle.
* `Session.Omits` — a session is another one without a vehicle.

## Main Statements

* `Session.Omits.step` — an operation on the one goes with the same operation on the other.
* `Session.Omits.run` — so does a sequence of operations.
* `Session.run_omits_vehicle` — what this means for two sessions from their start on.
-/

namespace JunctionReplay

variable {α : Type} [Scalar α]

/-- The store with only these vehicles. -/
def Store.withVehicles (store : Store α) (vehicles : List (Trajectory α)) : Store α :=
  { store with vehicles := vehicles }

section

variable (front : List (Trajectory α)) (vehicle : Trajectory α) (back : List (Trajectory α))

/-- A frame is another one without the pose of a vehicle, if that one has a pose.  The poses of the
vehicles in front of it and behind it are the same, with the headings that these vehicles had. -/
structure Frame.Omits [Planar α] (frame without : Frame α) : Prop where
  time_eq : without.time = frame.time
  signals_eq : without.signals = frame.signals
  poses_split : ∃ frontHeadings heading backHeadings,
    frontHeadings.length = front.length ∧ backHeadings.length = back.length ∧
      frame.poses = Session.posesAt frame.time front frontHeadings ++
        (vehicle.pose? frame.time heading).toList ++
          Session.posesAt frame.time back backHeadings ∧
      without.poses = Session.posesAt frame.time front frontHeadings ++
        Session.posesAt frame.time back backHeadings

namespace Session

/-- A session is another one without a vehicle, and both have something to replay. -/
structure Omits (session without : Session α) : Prop where
  vehicles_eq : session.store.vehicles = front ++ vehicle :: back
  store_eq : without.store = session.store.withVehicles (front ++ back)
  hasEnd : 0 < session.store.maxEndTime
  withoutHasEnd : 0 < without.store.maxEndTime
  directions_eq : without.directions = session.directions
  settings_eq : without.settings = session.settings
  clock_eq : without.clock = session.clock
  headings_split : ∃ frontHeadings heading backHeadings,
    frontHeadings.length = front.length ∧ backHeadings.length = back.length ∧
      session.headings = frontHeadings ++ heading :: backHeadings ∧
      without.headings = frontHeadings ++ backHeadings

variable {front vehicle back} {session without next last : Session α} {op : Op α}
  {shown : Option (Frame α)} {frames : List (Frame α)}

namespace Omits

theorem withClock (omits : Omits front vehicle back session without) (clock : Clock α) :
    Omits front vehicle back { session with clock := clock } { without with clock := clock } :=
  { omits with clock_eq := rfl }

theorem setPlaying (omits : Omits front vehicle back session without) (isPlaying : Bool) :
    Omits front vehicle back (session.setPlaying isPlaying) (without.setPlaying isPlaying) := by
  rw [Session.setPlaying, Session.setPlaying, omits.clock_eq]
  exact omits.withClock _

theorem restart (omits : Omits front vehicle back session without) :
    Omits front vehicle back session.restart without.restart where
  vehicles_eq := omits.vehicles_eq
  store_eq := omits.store_eq
  hasEnd := omits.hasEnd
  withoutHasEnd := omits.withoutHasEnd
  directions_eq := omits.directions_eq
  settings_eq := omits.settings_eq
  clock_eq := congrArg Clock.restart omits.clock_eq
  headings_split := by
    refine ⟨front.map fun _ => 0, 0, back.map fun _ => 0, List.length_map _, List.length_map _,
      ?_, ?_⟩
    · rw [Session.restart, restHeadings, omits.vehicles_eq, List.map_append, List.map_cons]
    · rw [Session.restart, restHeadings, omits.store_eq, Store.withVehicles, List.map_append]

theorem advance (omits : Omits front vehicle back session without) (delta : α) :
    Omits front vehicle back (session.advance delta) (without.advance delta) := by
  rw [Session.advance, Session.advance, if_pos omits.hasEnd, if_pos omits.withoutHasEnd,
    omits.clock_eq]
  exact omits.withClock _

theorem setSpeed (omits : Omits front vehicle back session without) {speed : α}
    (set : session.setSpeed speed = .ok next) :
    ∃ nextWithout, without.setSpeed speed = .ok nextWithout ∧
      Omits front vehicle back next nextWithout := by
  obtain ⟨allowed, clamped, rfl⟩ := setSpeed_eq_ok_iff.mp set
  rw [← omits.settings_eq] at clamped
  rw [← omits.clock_eq]
  exact ⟨_, setSpeed_eq_ok_iff.mpr ⟨allowed, clamped, rfl⟩, omits.withClock _⟩

variable [Planar α]

/-- What is shown is the same without the pose of the vehicle. -/
theorem frame (omits : Omits front vehicle back session without) :
    Frame.Omits front vehicle back session.frame without.frame where
  time_eq := congrArg Clock.time omits.clock_eq
  signals_eq := by
    rw [Session.frame, Session.frame, omits.store_eq, omits.directions_eq, omits.clock_eq]
    rfl
  poses_split := by
    obtain ⟨frontHeadings, heading, backHeadings, frontLength, backLength, headings,
      withoutHeadings⟩ := omits.headings_split
    refine ⟨frontHeadings, heading, backHeadings, frontLength, backLength, ?_, ?_⟩
    · simp only [Session.frame, posesAt, omits.vehicles_eq, headings]
      rw [List.zip_append frontLength.symm, List.zip_cons_cons, List.filterMap_append,
        List.filterMap_cons]
      cases vehicle.pose? session.clock.time heading <;> simp
    · simp only [Session.frame, posesAt, omits.store_eq, Store.withVehicles, withoutHeadings,
        omits.clock_eq]
      rw [List.zip_append frontLength.symm, List.filterMap_append]

/-- The headings that are left are split at the same place again. -/
theorem afterFrame (omits : Omits front vehicle back session without) :
    Omits front vehicle back session.afterFrame without.afterFrame where
  vehicles_eq := omits.vehicles_eq
  store_eq := omits.store_eq
  hasEnd := omits.hasEnd
  withoutHasEnd := omits.withoutHasEnd
  directions_eq := omits.directions_eq
  settings_eq := omits.settings_eq
  clock_eq := omits.clock_eq
  headings_split := by
    obtain ⟨frontHeadings, heading, backHeadings, frontLength, backLength, headings,
      withoutHeadings⟩ := omits.headings_split
    refine ⟨List.zipWith (nextHeading session.clock.time) front frontHeadings,
      nextHeading session.clock.time vehicle heading,
      List.zipWith (nextHeading session.clock.time) back backHeadings, ?_, ?_, ?_, ?_⟩
    · rw [List.length_zipWith, frontLength, Nat.min_self]
    · rw [List.length_zipWith, backLength, Nat.min_self]
    · rw [Session.afterFrame, omits.vehicles_eq, headings, List.zipWith_append frontLength.symm,
        List.zipWith_cons_cons]
    · rw [Session.afterFrame, omits.store_eq, omits.clock_eq, withoutHeadings,
        Store.withVehicles, List.zipWith_append frontLength.symm]

/-- An operation on the one session goes with the same operation on the other. -/
theorem step (omits : Omits front vehicle back session without)
    (stepped : session.step op = .ok (next, shown)) :
    ∃ nextWithout shownWithout, without.step op = .ok (nextWithout, shownWithout) ∧
      Omits front vehicle back next nextWithout ∧
      Option.Rel (Frame.Omits front vehicle back) shown shownWithout := by
  cases op with
  | play | pause =>
      cases stepped
      exact ⟨_, _, rfl, omits.setPlaying _, .none⟩
  | toggle =>
      cases stepped
      have opposite := omits.setPlaying (!session.clock.isPlaying)
      refine ⟨_, _, rfl, ?_, .none⟩
      rw [omits.clock_eq]
      exact opposite
  | restart =>
      cases stepped
      exact ⟨_, _, rfl, omits.restart, .none⟩
  | setSpeed speed =>
      obtain ⟨set, rfl⟩ := step_setSpeed_eq_ok_iff.mp stepped
      obtain ⟨nextWithout, setWithout, omitsNext⟩ := omits.setSpeed set
      have steppedWithout := step_setSpeed_eq_ok_iff.mpr ⟨setWithout, rfl⟩
      exact ⟨nextWithout, none, steppedWithout, omitsNext, .none⟩
  | tick delta =>
      cases stepped
      have advanced := omits.advance delta
      exact ⟨_, _, rfl, advanced.afterFrame, .some advanced.frame⟩
  | frame =>
      cases stepped
      exact ⟨_, _, rfl, omits.afterFrame, .some omits.frame⟩

/-- A sequence of operations on the one session goes with the same sequence on the other. -/
theorem run {ops : List (Op α)} (omits : Omits front vehicle back session without)
    (ran : session.run ops = .ok (last, frames)) :
    ∃ lastWithout framesWithout, without.run ops = .ok (lastWithout, framesWithout) ∧
      Omits front vehicle back last lastWithout ∧
      List.Forall₂ (Frame.Omits front vehicle back) frames framesWithout := by
  induction ops generalizing session without frames with
  | nil =>
      cases ran
      exact ⟨without, [], rfl, omits, .nil⟩
  | cons op rest ih =>
      obtain ⟨next, shown, later, stepped, ranRest, rfl⟩ := run_cons_eq_ok_iff.mp ran
      obtain ⟨nextWithout, shownWithout, steppedWithout, omitsNext, shows⟩ := omits.step stepped
      obtain ⟨lastWithout, laterWithout, ranWithout, omitsLast, showsLater⟩ := ih omitsNext ranRest
      refine ⟨lastWithout, shownWithout.toList ++ laterWithout,
        run_cons_of_ok steppedWithout ranWithout, omitsLast, ?_⟩
      cases shows with
      | none => exact showsLater
      | some showsNow => exact .cons showsNow showsLater

end Omits

/-- A session that starts without a vehicle is one that starts with it but for the vehicle. -/
theorem start_omits {store : Store α} {config : Config α} {first : Session α}
    (split : store.vehicles = front ++ vehicle :: back) (hasEnd : 0 < store.maxEndTime)
    (withoutHasEnd : 0 < (store.withVehicles (front ++ back)).maxEndTime)
    (started : start store config = .ok first) :
    ∃ firstWithout, start (store.withVehicles (front ++ back)) config = .ok firstWithout ∧
      Omits front vehicle back first firstWithout := by
  obtain ⟨speed, clamped, rfl⟩ := start_eq_ok_iff.mp started
  refine ⟨_, start_eq_ok_iff.mpr ⟨speed, clamped, rfl⟩, split, rfl, hasEnd, withoutHasEnd, rfl, rfl,
    rfl, front.map fun _ => 0, 0, back.map fun _ => 0, List.length_map _, List.length_map _, ?_, ?_⟩
  · rw [restHeadings, split, List.map_append, List.map_cons]
  · rw [restHeadings, Store.withVehicles, List.map_append]

/-- **Vehicles do not interfere.**  From the start on, with the same settings, a session on a store
without one of its vehicles goes through every sequence of operations as one with it, if both have
something to replay: the clocks are the same, and each of the frames is the same but for the pose of
that vehicle and the figures. -/
theorem run_omits_vehicle [Planar α] {store : Store α} {config : Config α} {first : Session α}
    (split : store.vehicles = front ++ vehicle :: back) (hasEnd : 0 < store.maxEndTime)
    (withoutHasEnd : 0 < (store.withVehicles (front ++ back)).maxEndTime)
    (started : start store config = .ok first) :
    ∃ firstWithout, start (store.withVehicles (front ++ back)) config = .ok firstWithout ∧
      ∀ ops, ∃ last frames lastWithout framesWithout, first.run ops = .ok (last, frames) ∧
        firstWithout.run ops = .ok (lastWithout, framesWithout) ∧
        lastWithout.clock = last.clock ∧
        List.Forall₂ (Frame.Omits front vehicle back) frames framesWithout := by
  obtain ⟨firstWithout, startedWithout, omits⟩ := start_omits split hasEnd withoutHasEnd started
  refine ⟨firstWithout, startedWithout, fun ops => ?_⟩
  obtain ⟨last, frames, ran, -⟩ := run_replays (start_replays started).1 ops
  obtain ⟨lastWithout, framesWithout, ranWithout, omitsLast, shows⟩ := omits.run ran
  exact ⟨last, frames, lastWithout, framesWithout, ran, ranWithout, omitsLast.clock_eq, shows⟩

/-- A vehicle that soon is gone, in front of one that moves and then stands. -/
theorem run_omits_vehicle_gone :
    let gone : Trajectory Float := ⟨"gone", [⟨0.0, 0.0, 0.0, 1.0⟩, ⟨1.0, 0.0, 1.0, 1.0⟩]⟩
    let stands : Trajectory Float :=
      ⟨"stands", [⟨0.0, 5.0, 0.0, 1.0⟩, ⟨1.0, 4.0, 0.0, 1.0⟩, ⟨9.0, 4.0, 0.0, 0.0⟩]⟩
    let store : Store Float := ⟨[], [], [gone, stands], [], [], none⟩
    let config : Config Float := .standard
    let ops : List (Op Float) := [.frame, .tick 0.1, .tick 0.5, .pause, .tick 0.5, .restart, .frame]
    0 < store.maxEndTime ∧ 0 < (store.withVehicles [stands]).maxEndTime ∧
      ∃ first firstWithout, start store config = .ok first ∧
        start (store.withVehicles [stands]) config = .ok firstWithout ∧
        ∃ last frames lastWithout framesWithout, first.run ops = .ok (last, frames) ∧
          firstWithout.run ops = .ok (lastWithout, framesWithout) ∧
          lastWithout.clock = last.clock ∧
          List.Forall₂ (Frame.Omits [] gone [stands]) frames framesWithout := by
  intro gone stands store config ops
  have split : store.vehicles = [] ++ gone :: [stands] := rfl
  have hasEnd : 0 < store.maxEndTime := by decide +kernel
  have withoutHasEnd : 0 < (store.withVehicles [stands]).maxEndTime := by decide +kernel
  have started : start store config =
      .ok ⟨store, config.directions, config.playback, .start 5.0 true, [0.0, 0.0]⟩ := by
    decide +kernel
  obtain ⟨firstWithout, startedWithout, runs⟩ :=
    run_omits_vehicle split hasEnd withoutHasEnd started
  exact ⟨hasEnd, withoutHasEnd, _, firstWithout, started, startedWithout, runs ops⟩

end Session

end

end JunctionReplay
