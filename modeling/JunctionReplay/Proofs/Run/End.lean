import JunctionReplay.Proofs.Run.Frames
import JunctionReplay.Proofs.Session.End

/-!
# The end of a run

A run without a requested duration lasts as long as it takes to play the longest store, and one
second more.  Its sessions play at one speed, so as long as they play, the time of each of them is
the time that the run has lasted, at that speed.  A session that has nothing to play does not move,
and does not hold up the other one.  So the last frame finds every session that plays past the end
of its store.

## Main Definitions

* `Session.HasPlayed`, `Comparison.HasPlayed` — what holds of sessions that have played for a time.
* `ComparisonFrame.ShowsEnd` — the frames show the ends of all stores that there is something to
  play of.

## Main Statements

* `Comparison.HasPlayed.tick` — one frame takes the sessions a delta further.
* `Run.exists_play_showsEnd` — the last frame of a run shows the ends.
-/

namespace JunctionReplay

variable {store baseline : Store Rat} {optimized : Option (Store Rat)} {speed elapsed delta : Rat}

/-! ## One session -/

/-- A session has played a store at a speed for a time.  With nothing to play it stands still. -/
structure Session.HasPlayed (session : Session Rat) (store : Store Rat) (speed elapsed : Rat) :
    Prop where
  store_eq : session.store = store
  speed_eq : session.clock.speed = speed
  isPlaying : session.clock.isPlaying
  time_eq : 0 < store.maxEndTime → session.clock.time = elapsed * speed

theorem Clock.isDelta_of_nonneg (forward : 0 ≤ delta) : Clock.isDelta delta := by
  have notNegative : ¬ delta < 0 := Rat.not_lt.mpr forward
  rw [isDelta, decide_eq_false notNegative]
  rfl

namespace Session.HasPlayed

variable {session : Session Rat}

theorem advance (played : session.HasPlayed store speed elapsed) (forward : 0 ≤ delta) :
    (session.advance delta).HasPlayed store speed (elapsed + delta) := by
  obtain ⟨rfl, rfl, isPlaying, time⟩ := played
  unfold Session.advance
  by_cases lasts : 0 < session.store.maxEndTime
  · have runs : (session.clock.isPlaying && Clock.isDelta delta) = true := by
      rw [isPlaying, Clock.isDelta_of_nonneg forward]
      rfl
    have moved : session.clock.advance delta =
        { session.clock with time := session.clock.time + delta * session.clock.speed } :=
      if_pos runs
    rw [if_pos lasts, moved]
    refine ⟨rfl, rfl, isPlaying, fun _ => ?_⟩
    dsimp only
    rw [time lasts]
    exact (Rat.add_mul _ _ _).symm
  · rw [if_neg lasts]
    exact ⟨rfl, rfl, isPlaying, fun lasts' => absurd lasts' lasts⟩

theorem afterFrame [Planar Rat] (played : session.HasPlayed store speed elapsed) :
    session.afterFrame.HasPlayed store speed elapsed :=
  ⟨played.store_eq, played.speed_eq, played.isPlaying, played.time_eq⟩

/-- A session that has played past the end of its store shows the end. -/
theorem frame_showsEnd [Planar Rat] (played : session.HasPlayed store speed elapsed)
    (increasing : ∀ vehicle ∈ store.vehicles, vehicle.IsIncreasing)
    (late : store.maxEndTime < elapsed * speed) (lasts : 0 < store.maxEndTime) :
    session.frame.ShowsEnd store := by
  obtain ⟨rfl, rfl, -, time⟩ := played
  rw [← time lasts] at late
  exact Session.frame_showsEnd increasing lasts late

end Session.HasPlayed

/-! ## One or two sessions -/

/-- All sessions have played their stores at one speed for a time. -/
structure Comparison.HasPlayed (view : Comparison Rat) (baseline : Store Rat)
    (optimized : Option (Store Rat)) (speed elapsed : Rat) : Prop where
  baseline : view.baseline.HasPlayed baseline speed elapsed
  optimized :
    Option.Rel (fun session store => session.HasPlayed store speed elapsed) view.optimized optimized

/-- The frames show the ends of all stores that there is something to play of. -/
structure ComparisonFrame.ShowsEnd (shown : ComparisonFrame Rat) (baseline : Store Rat)
    (optimized : Option (Store Rat)) : Prop where
  baseline : 0 < baseline.maxEndTime → shown.baseline.ShowsEnd baseline
  optimized :
    Option.Rel (fun frame store => 0 < store.maxEndTime → frame.ShowsEnd store) shown.optimized
      optimized

namespace Comparison.HasPlayed

variable {view : Comparison Rat}

/-- The sessions together end with the last of their stores. -/
theorem le_maxEndTime (played : view.HasPlayed baseline optimized speed elapsed) :
    ∀ store ∈ baseline :: optimized.toList, store.maxEndTime ≤ view.maxEndTime := by
  obtain ⟨first, second⟩ := view
  obtain ⟨ofBaseline, ofOptimized⟩ := played
  cases ofOptimized with
  | none =>
      intro store member
      obtain rfl := List.mem_singleton.mp member
      rw [← ofBaseline.store_eq]
      exact Rat.le_refl
  | some played =>
      intro store member
      rcases List.mem_cons.mp member with rfl | member
      · rw [← ofBaseline.store_eq]
        exact Scalar.le_larger_left Rat.le_refl
      · obtain rfl := List.mem_singleton.mp member
        rw [← played.store_eq]
        exact Scalar.le_larger_right Rat.le_refl

variable [Planar Rat]

/-- One frame takes all sessions a delta further. -/
theorem tick (played : view.HasPlayed baseline optimized speed elapsed) (forward : 0 ≤ delta) :
    (view.tick delta).1.HasPlayed baseline optimized speed (elapsed + delta) := by
  obtain ⟨first, second⟩ := view
  obtain ⟨ofBaseline, ofOptimized⟩ := played
  refine ⟨(ofBaseline.advance forward).afterFrame, ?_⟩
  cases ofOptimized with
  | none => exact .none
  | some played => exact .some (played.advance forward).afterFrame

/-- Sessions that play past the ends of all stores show these. -/
theorem tick_showsEnd (played : view.HasPlayed baseline optimized speed elapsed)
    (forward : 0 ≤ delta)
    (increasing : ∀ store ∈ baseline :: optimized.toList, ∀ vehicle ∈ store.vehicles,
      vehicle.IsIncreasing)
    (late : ∀ store ∈ baseline :: optimized.toList,
      store.maxEndTime < (elapsed + delta) * speed) :
    (view.tick delta).2.ShowsEnd baseline optimized := by
  obtain ⟨first, second⟩ := view
  obtain ⟨ofBaseline, ofOptimized⟩ := played
  refine ⟨?_, ?_⟩
  · have member : baseline ∈ baseline :: optimized.toList := List.mem_cons_self
    exact (ofBaseline.advance forward).frame_showsEnd (increasing _ member) (late _ member)
  · cases ofOptimized with
    | none => exact .none
    | @some session store played =>
        have member : store ∈ baseline :: (some store).toList := by simp
        exact .some ((played.advance forward).frame_showsEnd (increasing _ member) (late _ member))

end Comparison.HasPlayed

/-! ## Runs -/

/-- **The end of a run.**  A run without a requested duration has an end, and its last frame shows
the ends of all stores that there is something to play of. -/
theorem Run.exists_play_showsEnd [Planar Rat] {view : Comparison Rat}
    (starts : view.HasPlayed baseline optimized speed 0) (runs : 0 < speed) (forward : 0 < delta)
    (increasing : ∀ store ∈ baseline :: optimized.toList, ∀ vehicle ∈ store.vehicles,
      vehicle.IsIncreasing) :
    ∃ duration summary,
      runDuration none view.maxEndTime view.baseline.clock.speed = .ok duration ∧
        play view delta duration = some summary ∧
        summary.last.shown.ShowsEnd baseline optimized := by
  -- In front of every frame, all sessions have played for as long as the run has lasted.
  let Holds (run : Run Rat) : Prop := run.view.HasPlayed baseline optimized speed run.elapsed
  have keeps : ∀ run, Holds run → Holds (run.advance delta).next := by
    intro run played
    exact Comparison.HasPlayed.tick played (Rat.le_of_lt forward)
  obtain ⟨summary, before, plays, played, isLast, lasted⟩ :=
    exists_play_eq_some (view.maxEndTime / speed + 1) forward keeps starts
  have late : ∀ store ∈ baseline :: optimized.toList,
      store.maxEndTime < (before.elapsed + delta) * speed := by
    intro store member
    have beyond : view.maxEndTime / speed < before.elapsed + delta := by grind
    exact Scalar.lt_of_le_of_lt (starts.le_maxEndTime store member)
      ((Rat.div_lt_iff runs).mp beyond)
  have duration : runDuration none view.maxEndTime view.baseline.clock.speed =
      .ok (view.maxEndTime / speed + 1) := by
    have second : (1.0 : Rat) = 1 := by decide +kernel
    rw [starts.baseline.speed_eq, ← second]
    rfl
  refine ⟨_, summary, duration, plays, ?_⟩
  rw [isLast]
  exact played.tick_showsEnd (Rat.le_of_lt forward) increasing late

end JunctionReplay
