import JunctionReplay.CommandLine.Program
import JunctionReplay.Proofs.Exchange.HandOver
import JunctionReplay.Proofs.Payload.Stores
import JunctionReplay.Proofs.Run.Start
import JunctionReplay.Proofs.Settings.Accepted

/-!
# What comes in front of the first frame

With accepted settings and with payloads that load, all that the program does in front of the first
frame succeeds, whatever speed is asked for: what is left is a plan whose sessions stand at the
start of their stores.

## Main Definitions

* `CommandLine.Returns` — work comes to a result.

## Main Statements

* `CommandLine.Returns.bind` — work after work.
* `CommandLine.exists_prepare_returns` — the plan.
-/

namespace JunctionReplay.CommandLine

/-- Work comes to a result, whatever was told before. -/
def Returns {β : Type} (work : Telling β) (value : β) : Prop :=
  ∀ told, ∃ lines, StateT.run (ExceptT.run work) told = (.ok value, lines)

variable {β γ : Type}

theorem Returns.pure (value : β) : Returns (pure value) value :=
  fun told => ⟨told, rfl⟩

theorem returns_tell (lines : List Log.Line) : Returns (tell lines) () :=
  fun told => ⟨told ++ lines.toArray, rfl⟩

theorem Returns.bind {first : Telling β} {next : β → Telling γ} {value : β} {result : γ}
    (comesTo : Returns first value) (goesOn : Returns (next value) result) :
    Returns (first >>= next) result := by
  intro told
  obtain ⟨lines, ran⟩ := comesTo told
  obtain ⟨lines', ran'⟩ := goesOn lines
  refine ⟨lines', ?_⟩
  rw [ExceptT.run_bind, StateT.run_bind, ran]
  exact ran'

theorem Returns.map {work : Telling β} {value : β} (comesTo : Returns work value) (f : β → γ) :
    Returns (f <$> work) (f value) := by
  intro told
  obtain ⟨lines, ran⟩ := comesTo told
  refine ⟨lines, ?_⟩
  rw [ExceptT.run_map, StateT.run_map, ran]
  rfl

theorem returns_orBreakdown {result : Except Fault β} {value : β} (succeeds : result = .ok value) :
    Returns (orBreakdown result) value := by
  rw [succeeds]
  exact .pure value

/-! ## Reading -/

variable {files : Files} {config : Config Float} {path : String} {store : Store Float}

theorem readConfig_returns (accepted : Config.ofFileOrStandard (files path) = .ok config) :
    Returns (readConfig files path) config := by
  unfold readConfig
  rw [accepted]
  exact .bind (returns_tell _) (.pure config)

/-- A payload that loads is read, and its scene is looked at. -/
theorem readScene_returns
    (loaded : Payload.storeOfFile (files path) config.directions config.cycle = .ok (.ok store)) :
    Returns (readScene files config path) store := by
  have read : Returns (readStore files config path) store := by
    rw [Exchange.readStore_eq, loaded]
    exact .bind (returns_tell _) (.bind (returns_tell _) (.pure store))
  exact .bind read (.bind (returns_tell _) (.pure store))

/-! ## Sessions -/

variable {baseline : Store Float} {optimized : Option (Store Float)}

/-- Whatever speed is asked for, the sessions get one. -/
theorem exists_applySpeed_returns (usable : config.playback.IsUsable) {view : Comparison Float}
    {clock : Clock Float} (begins : view.Begins baseline optimized config clock)
    (speed : Option Float) :
    ∃ next clock, Returns (applySpeed view speed) next ∧
      next.Begins baseline optimized config clock := by
  cases speed with
  | none => exact ⟨view, clock, .pure view, begins⟩
  | some speed =>
      obtain ⟨next, set, nextBegins⟩ := begins.exists_setSpeed usable speed
      exact ⟨next, _, .bind (returns_tell _) (returns_orBreakdown set), nextBegins⟩

/-- With accepted settings and payloads that load there is a plan for a run that plays to the end,
and its sessions stand at the start. -/
theorem exists_prepare_returns {options : Options}
    (accepted : Config.ofFileOrStandard (files options.config) = .ok config)
    (loaded : Payload.storeOfFile (files options.payload) config.directions config.cycle =
      .ok (.ok baseline))
    (compared : Option.Rel
      (fun path store =>
        Payload.storeOfFile (files path) config.directions config.cycle = .ok (.ok store))
      options.compare optimized)
    (toTheEnd : options.duration = none) :
    ∃ plan clock, Returns (prepare files options) plan ∧ plan.config = config ∧
      plan.view.Begins baseline optimized config clock := by
  have usable := Config.isUsable_of_check (Config.check_of_ofFileOrStandard accepted)
  obtain ⟨first, started, firstBegins⟩ := Comparison.exists_start usable baseline optimized
  obtain ⟨view, clock, applied, begins⟩ :=
    exists_applySpeed_returns usable firstBegins options.speed
  let duration := view.maxEndTime / view.baseline.clock.speed + 1.0
  refine ⟨⟨config, view, duration⟩, clock, ?_, rfl, begins⟩
  unfold prepare
  refine .bind (returns_tell _) ?_
  refine .bind (readConfig_returns accepted) ?_
  refine .bind (readScene_returns loaded) ?_
  cases compare : options.compare
  all_goals
    rw [compare] at compared
    cases compared
  case' none => refine .bind (.pure none) ?_
  case' some.some loaded => refine .bind ((readScene_returns loaded).map some) ?_
  all_goals
    refine .bind (returns_orBreakdown started) ?_
    refine .bind applied ?_
    rw [toTheEnd]
    exact .bind (returns_tell _) (.pure _)

end JunctionReplay.CommandLine
