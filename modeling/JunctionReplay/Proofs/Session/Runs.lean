import JunctionReplay.Session

/-!
# Runs of a session

A run is what its operations do one after the other, so that whatever each of them keeps up holds
at the end as well.

## Main Statements

* `Session.start_eq_ok_iff`, `Session.setSpeed_eq_ok_iff` — what a start and a change of speed leave.
* `Session.run_cons_eq_ok_iff`, `Session.run_append` — a run is put together from runs.
* `Session.run_shows_of_step`, `Session.run_of_step` — what every step keeps up and shows, a run
  keeps up and shows, and it does not fail.
-/

namespace JunctionReplay.Session

variable {α : Type} [Scalar α] {session middle next last : Session α} {op : Op α}
  {frames earlier later : List (Frame α)}

/-! ## Single operations -/

/-- A session starts at the speed that is chosen, if there is one. -/
theorem start_eq_ok_iff {store : Store α} {config : Config α} :
    start store config = .ok session ↔
      ∃ speed, config.playback.clampSpeed config.playback.initialSpeed = .ok speed ∧
        session = ⟨store, config.directions, config.playback,
          .start speed config.playback.startsPlaying, restHeadings store⟩ := by
  unfold start
  cases config.playback.clampSpeed config.playback.initialSpeed with
  | error fault => simp [Except.map]
  | ok speed => simp [Except.map, eq_comm]

/-- A change of speed changes the clock alone, if there is a speed to choose. -/
theorem setSpeed_eq_ok_iff {speed : α} :
    session.setSpeed speed = .ok next ↔
      ∃ allowed, session.settings.clampSpeed speed = .ok allowed ∧
        next = { session with clock := session.clock.setSpeed allowed } := by
  unfold setSpeed
  cases session.settings.clampSpeed speed with
  | error fault => simp [Except.map]
  | ok allowed => simp [Except.map, eq_comm]

variable [Planar α]

/-- A change of speed shows nothing. -/
theorem step_setSpeed_eq_ok_iff {speed : α} {shown : Option (Frame α)} :
    session.step (.setSpeed speed) = .ok (next, shown) ↔
      session.setSpeed speed = .ok next ∧ shown = none := by
  rw [step]
  cases session.setSpeed speed with
  | error fault => simp [Except.map]
  | ok changed => simp [Except.map, eq_comm]

/-! ## Sequences of operations -/

/-- A run goes on from what its first operation leaves. -/
theorem run_cons_of_ok {shown : Option (Frame α)} {rest : List (Op α)}
    (stepped : session.step op = .ok (next, shown)) (ran : next.run rest = .ok (last, frames)) :
    session.run (op :: rest) = .ok (last, shown.toList ++ frames) := by
  simp only [run, stepped, ran, bind, Except.bind]

theorem run_cons_eq_ok_iff {rest : List (Op α)} :
    session.run (op :: rest) = .ok (last, frames) ↔
      ∃ next shown later, session.step op = .ok (next, shown) ∧
        next.run rest = .ok (last, later) ∧ frames = shown.toList ++ later := by
  constructor
  · intro ran
    cases stepped : session.step op with
    | error fault =>
        simp only [run, stepped, bind, Except.bind] at ran
        cases ran
    | ok left =>
        cases rested : left.1.run rest with
        | error fault =>
            simp only [run, stepped, rested, bind, Except.bind] at ran
            cases ran
        | ok ended =>
            have runs := run_cons_of_ok stepped rested
            rw [runs] at ran
            cases ran
            exact ⟨left.1, left.2, ended.2, rfl, rested, rfl⟩
  · rintro ⟨next, shown, later, stepped, ran, rfl⟩
    exact run_cons_of_ok stepped ran

/-- The frames of a run in two parts are those of the parts. -/
theorem run_append {first second : List (Op α)} (ranFirst : session.run first = .ok (middle, earlier))
    (ranSecond : middle.run second = .ok (last, later)) :
    session.run (first ++ second) = .ok (last, earlier ++ later) := by
  induction first generalizing session earlier with
  | nil =>
      cases ranFirst
      exact ranSecond
  | cons op rest ih =>
      obtain ⟨next, shown, between, stepped, ran, rfl⟩ := run_cons_eq_ok_iff.mp ranFirst
      rw [List.append_assoc]
      exact run_cons_of_ok stepped (ih ran)

/-- **Invariants of runs.**  A run does not fail if no step does from where it comes, it keeps up
what each step keeps up, and what all steps show is what it shows. -/
theorem run_shows_of_step {Holds : Session α → Prop} {Shows : Frame α → Prop}
    (kept : ∀ session, Holds session → ∀ op,
      ∃ next shown, session.step op = .ok (next, shown) ∧ Holds next ∧
        ∀ frame ∈ shown, Shows frame)
    (holds : Holds session) (ops : List (Op α)) :
    ∃ last frames, session.run ops = .ok (last, frames) ∧ Holds last ∧
      ∀ frame ∈ frames, Shows frame := by
  induction ops generalizing session with
  | nil => exact ⟨session, [], rfl, holds, nofun⟩
  | cons op rest ih =>
      obtain ⟨next, shown, stepped, holdsNext, shows⟩ := kept session holds op
      obtain ⟨last, frames, ran, holdsLast, showsLater⟩ := ih holdsNext
      refine ⟨last, shown.toList ++ frames, run_cons_of_ok stepped ran, holdsLast, ?_⟩
      intro frame member
      rcases List.mem_append.mp member with now | later
      · exact shows frame (Option.mem_toList.mp now)
      · exact showsLater frame later

theorem run_of_step {Holds : Session α → Prop}
    (kept : ∀ session, Holds session → ∀ op,
      ∃ next shown, session.step op = .ok (next, shown) ∧ Holds next)
    (holds : Holds session) (ops : List (Op α)) :
    ∃ last frames, session.run ops = .ok (last, frames) ∧ Holds last := by
  have shows : ∀ session, Holds session → ∀ op, ∃ next shown,
      session.step op = .ok (next, shown) ∧ Holds next ∧ ∀ frame ∈ shown, True := by
    intro session holds op
    obtain ⟨next, shown, stepped, holdsNext⟩ := kept session holds op
    exact ⟨next, shown, stepped, holdsNext, fun _ _ => trivial⟩
  obtain ⟨last, frames, ran, holdsLast, -⟩ := run_shows_of_step shows holds ops
  exact ⟨last, frames, ran, holdsLast⟩

end JunctionReplay.Session
