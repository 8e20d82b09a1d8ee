import JunctionReplay.Proofs.CommandLine.Preparation
import JunctionReplay.Proofs.Run.End
import JunctionReplay.Proofs.Run.ExactStart

/-!
# Fast runs

A program that does not wait for real time to pass plays with the delta of its settings.  What it
prepares is played here in exact arithmetic: with no requested duration the run has an end, and by
then every session has come to the end of its store.

The run starts from the exact copy of the sessions that the program prepares, which are those that
exact arithmetic would prepare (`Comparison.start_toExact`, `Comparison.Begins.setSpeed_toExact`).

## Main Statements

* `Comparison.Begins.toExact_hasPlayed` — the copy of sessions at their start is ready to play.
* `CommandLine.fast_run_shows_end` — the run of a program.
-/

namespace JunctionReplay

open Machine (exactValue)

variable {config : Config Float} {clock : Clock Float} {baseline : Store Float}
  {optimized : Option (Store Float)}

/-! ## Copies of sessions at their start -/

theorem Session.Begins.toExact_hasPlayed {session : Session Float} {store : Store Float}
    (begins : session.Begins store config clock) (time : clock.time = 0)
    (isPlaying : clock.isPlaying) :
    session.toExact.HasPlayed store.toExact (exactValue clock.speed) 0 := by
  obtain ⟨sound, rfl⟩ := begins
  refine ⟨congrArg Store.toExact sound.store_eq, rfl, isPlaying, fun _ => ?_⟩
  rw [Rat.zero_mul]
  exact (congrArg exactValue time).trans Machine.exactValue_zero

theorem Comparison.Begins.toExact_hasPlayed {view : Comparison Float}
    (begins : view.Begins baseline optimized config clock)
    (playing : config.playback.startsPlaying) :
    view.toExact.HasPlayed baseline.toExact (optimized.map Store.toExact)
      (exactValue clock.speed) 0 := by
  obtain ⟨first, second⟩ := view
  obtain ⟨time, isPlaying, beginsFirst, beginsSecond⟩ := begins
  rw [playing] at isPlaying
  refine ⟨beginsFirst.toExact_hasPlayed time isPlaying, ?_⟩
  cases beginsSecond with
  | none => exact .none
  | some beginsSecond => exact .some (beginsSecond.toExact_hasPlayed time isPlaying)

/-- Sessions run at an allowed speed. -/
theorem Comparison.Begins.speed_pos {view : Comparison Float}
    (begins : view.Begins baseline optimized config clock)
    (usable : config.playback.IsUsable) : 0 < exactValue clock.speed := by
  have allowed := begins.baseline.isSound.allows_speed
  rw [begins.baseline.clock_eq] at allowed
  exact Machine.exactValue_pos (usable.pos_of_allows allowed)

/-! ## Stores that were read -/

/-- Whatever loads under the path of a second payload, if there is one, was read. -/
theorem Payload.isLoaded_of_compared {files : CommandLine.Files} {path : Option String}
    (compared : Option.Rel
      (fun path store => storeOfFile (files path) config.directions config.cycle = .ok (.ok store))
      path optimized) : ∀ store ∈ optimized.toList, IsLoaded store := by
  cases compared with
  | none => exact nofun
  | some loaded =>
      intro store member
      obtain rfl := List.mem_singleton.mp member
      exact isLoaded_of_storeOfFile loaded

/-- Frames that show the ends of the copies of stores do so whenever the stores last. -/
theorem ComparisonFrame.ShowsEnd.of_toExact {shown : ComparisonFrame Rat}
    (isLoaded : ∀ store ∈ baseline :: optimized.toList, Payload.IsLoaded store)
    (ends : shown.ShowsEnd baseline.toExact (optimized.map Store.toExact)) :
    (0 < baseline.maxEndTime → shown.baseline.ShowsEnd baseline.toExact) ∧
      Option.Rel (fun frame store => 0 < store.maxEndTime → frame.ShowsEnd store.toExact)
        shown.optimized optimized := by
  obtain ⟨first, second⟩ := shown
  obtain ⟨ofBaseline, ofOptimized⟩ := ends
  refine ⟨fun lasts => ?_, ?_⟩
  · exact ofBaseline ((isLoaded baseline List.mem_cons_self).maxEndTime_toExact_pos lasts)
  · cases optimized with
    | none =>
        cases ofOptimized
        exact .none
    | some store =>
        have member : store ∈ baseline :: (some store).toList := by simp
        cases ofOptimized with
        | some showsEnd =>
            exact .some fun lasts =>
              showsEnd ((isLoaded store member).maxEndTime_toExact_pos lasts)

namespace CommandLine

/-- **A fast run to the end.**  With settings by which sessions start to play, with payloads that
load, and whatever speed is asked for, the program prepares a run.  In exact arithmetic the run has
an end, and its last frame shows the end of every store that there is something to play of. -/
theorem fast_run_shows_end [Planar Rat] {files : Files} {options : Options}
    (accepted : Config.ofFileOrStandard (files options.config) = .ok config)
    (playing : config.playback.startsPlaying)
    (loaded : Payload.storeOfFile (files options.payload) config.directions config.cycle =
      .ok (.ok baseline))
    (compared : Option.Rel
      (fun path store =>
        Payload.storeOfFile (files path) config.directions config.cycle = .ok (.ok store))
      options.compare optimized)
    (toTheEnd : options.duration = none) :
    ∃ plan duration summary, Returns (prepare files options) plan ∧
      let view := plan.view.toExact
      runDuration none view.maxEndTime view.baseline.clock.speed = .ok duration ∧
        Run.play view plan.config.playback.toExact.frameDelta duration = some summary ∧
        (0 < baseline.maxEndTime → summary.last.shown.baseline.ShowsEnd baseline.toExact) ∧
        Option.Rel (fun frame store => 0 < store.maxEndTime → frame.ShowsEnd store.toExact)
          summary.last.shown.optimized optimized := by
  have usable := Config.isUsable_of_check (Config.check_of_ofFileOrStandard accepted)
  obtain ⟨plan, clock, prepared, isConfig, begins⟩ :=
    exists_prepare_returns accepted loaded compared toTheEnd
  have isLoaded : ∀ store ∈ baseline :: optimized.toList, Payload.IsLoaded store :=
    List.forall_mem_cons.mpr
      ⟨Payload.isLoaded_of_storeOfFile loaded, Payload.isLoaded_of_compared compared⟩
  have increasing : ∀ store ∈ baseline.toExact :: (optimized.map Store.toExact).toList,
      ∀ vehicle ∈ store.vehicles, vehicle.IsIncreasing := by
    rw [Option.toList_map, ← List.map_cons]
    intro copy member
    obtain ⟨store, storeMember, rfl⟩ := List.mem_map.mp member
    exact (isLoaded store storeMember).toExact_isIncreasing
  obtain ⟨duration, summary, lasts, plays, ends⟩ :=
    Run.exists_play_showsEnd (begins.toExact_hasPlayed playing) (begins.speed_pos usable)
      usable.toExact.frameDelta_pos increasing
  rw [← isConfig] at plays
  exact ⟨plan, duration, summary, prepared, lasts, plays, ends.of_toExact isLoaded⟩

/-- One vehicle that goes straight on, compared with a simulation in which nothing goes on. -/
theorem fast_run_shows_end_one_vehicle :
    let _ : Planar Rat := ⟨fun a => a, fun y x => y / x, 157 / 100, 0⟩
    let moving :=
      "\x7b\x22vehicles\x22:[\x7b\x22id\x22:\x22v\x22,\x22positions\x22:[
        \x7b\x22time\x22:0,\x22x\x22:0,\x22y\x22:0\x7d,
        \x7b\x22time\x22:2,\x22x\x22:4,\x22y\x22:0\x7d]\x7d]\x7d"
    let standing := "\x7b\x7d"
    let files : Files := fun path =>
      match path with
      | "moving.json" => .bytes moving.toUTF8
      | "standing.json" => .bytes standing.toUTF8
      | _ => .missing
    let options : Options :=
      { payload := "moving.json"
        compare := some "standing.json"
        config := "none.toml"
        speed := some 2.0
        duration := none
        fast := true
        json := false
        verbose := false }
    let empty : Store Float := ⟨[], [], [], [], [], none⟩
    let baseline : Store Float :=
      { empty with vehicles := [⟨"v", [⟨0.0, 0.0, 0.0, 0.0⟩, ⟨2.0, 4.0, 0.0, 0.0⟩]⟩] }
    let config : Config Float := .standard
    Config.ofFileOrStandard (files options.config) = .ok config ∧
      config.playback.startsPlaying ∧
      Payload.storeOfFile (files options.payload) config.directions config.cycle =
        .ok (.ok baseline) ∧
      Payload.storeOfFile (files "standing.json") config.directions config.cycle =
        .ok (.ok empty) ∧
      ∃ plan duration summary, Returns (prepare files options) plan ∧
        let view := plan.view.toExact
        runDuration none view.maxEndTime view.baseline.clock.speed = .ok duration ∧
          Run.play view plan.config.playback.toExact.frameDelta duration = some summary ∧
          summary.last.shown.baseline.ShowsEnd baseline.toExact ∧
          Option.Rel (fun frame store => 0 < store.maxEndTime → frame.ShowsEnd store.toExact)
            summary.last.shown.optimized (some empty) := by
  intro _ moving standing files options empty baseline config
  have accepted : Config.ofFileOrStandard (files options.config) = .ok config := rfl
  have loaded : Payload.storeOfFile (files options.payload) config.directions config.cycle =
      .ok (.ok baseline) :=
    (Payload.storeOfFile_toUTF8 moving).trans (Payload.storeOfText_of_document (by decide +kernel))
  have compared : Payload.storeOfFile (files "standing.json") config.directions config.cycle =
      .ok (.ok empty) :=
    (Payload.storeOfFile_toUTF8 standing).trans
      (Payload.storeOfText_of_document (by decide +kernel))
  obtain ⟨plan, duration, summary, prepared, lasts, plays, ends, compares⟩ :=
    fast_run_shows_end accepted rfl loaded (.some compared) rfl
  have nonempty : 0 < baseline.maxEndTime := by decide +kernel
  exact ⟨accepted, rfl, loaded, compared, plan, duration, summary, prepared, lasts, plays,
    ends nonempty, compares⟩

end CommandLine

end JunctionReplay
