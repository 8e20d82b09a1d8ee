import JunctionReplay.Comparison
import JunctionReplay.Proofs.Session.InStep
import JunctionReplay.Proofs.Session.Replay
import JunctionReplay.Scalar.Machine

/-!
# Sessions side by side

A comparison hands every operation on to its sessions: an operation on the view to both of them, an
operation on one session to that one alone.  So a run of a comparison is nothing but the two runs
of its sessions, and neither of them can tell whether there is another one, or which.

The two go alike as long as they are asked the same, which is the case for operations on the view.

## Main Definitions

* `Session.replay`, `Comparison.replay` — runs from the start on.
* `Comparison.Op.forBaseline?`, `Comparison.Op.forOptimized?` — what an operation asks of each
  session.
* `Comparison.GoesAlone` — a run that does with each session what a run of that one alone does.

## Main Statements

* `Comparison.step_eq` — an operation is handed on.
* `Comparison.Replays.run` — a run of a comparison is a run of each session.
* `Comparison.sessions_run_apart` — what this means for a comparison from its start on.
-/

namespace JunctionReplay

variable {α : Type} [Scalar α]

/-- Where relations compose, so do they between values that may be missing. -/
theorem optionRel_trans {β γ δ : Type} {first : β → γ → Prop} {second : γ → δ → Prop}
    {both : β → δ → Prop} (composed : ∀ {b c d}, first b c → second c d → both b d)
    {value : Option β} {middle : Option γ} {last : Option δ}
    (related : Option.Rel first value middle) (relatedLater : Option.Rel second middle last) :
    Option.Rel both value last := by
  cases related with
  | none =>
      cases relatedLater with
      | none => exact .none
  | some holds =>
      cases relatedLater with
      | some holdsLater => exact .some (composed holds holdsLater)

/-! ## Single sessions -/

namespace Session

variable {store : Store α} {config : Config α} {session next last lastOther : Session α}

theorem start_of_not_ordered (empty : ¬ config.playback.minSpeed ≤ config.playback.maxSpeed)
    (store : Store α) : start store config = .error .emptySpeedRange := by
  unfold start PlaybackSettings.clampSpeed
  rw [if_neg empty]
  rfl

theorem exists_start_of_ordered (ordered : config.playback.minSpeed ≤ config.playback.maxSpeed)
    (store : Store α) : ∃ first, start store config = .ok first := by
  unfold start PlaybackSettings.clampSpeed
  rw [if_pos ordered]
  exact ⟨_, rfl⟩

variable [Planar α]

/-- What a sequence of operations leaves of a session that is started for it, and the frames that
it shows. -/
def replay (store : Store α) (config : Config α) (ops : List (Op α)) :
    Except Fault (Session α × List (Frame α)) := do
  let first ← start store config
  first.run ops

theorem replay_of_start (started : start store config = .ok session) (ops : List (Op α)) :
    replay store config ops = session.run ops := by
  rw [replay, started]
  rfl

theorem replay_of_not_ordered (empty : ¬ config.playback.minSpeed ≤ config.playback.maxSpeed)
    (store : Store α) (ops : List (Op α)) : replay store config ops = .error .emptySpeedRange := by
  rw [replay, start_of_not_ordered empty]
  rfl

theorem exists_run_of_replay {ops : List (Op α)} {frames : List (Frame α)}
    (ran : replay store config ops = .ok (last, frames)) :
    ∃ first, start store config = .ok first ∧ first.run ops = .ok (last, frames) := by
  cases started : start store config with
  | error fault =>
      rw [replay, started] at ran
      cases ran
  | ok first =>
      rw [replay_of_start started] at ran
      exact ⟨first, rfl, ran⟩

/-- The same operations bring two clocks to the same pace, and to the same time if both stores
have something to replay, or neither has. -/
theorem replay_inStep {store otherStore : Store α} {ops : List (Op α)}
    {frames framesOther : List (Frame α)} (ran : replay store config ops = .ok (last, frames))
    (ranOther : replay otherStore config ops = .ok (lastOther, framesOther)) :
    paceOf last.clock = paceOf lastOther.clock ∧
      ((0 < store.maxEndTime ↔ 0 < otherStore.maxEndTime) →
        last.clock.time = lastOther.clock.time) := by
  obtain ⟨first, started, ranAll⟩ := exists_run_of_replay ran
  obtain ⟨firstOther, startedOther, ranAllOther⟩ := exists_run_of_replay ranOther
  have inStep := (start_inStep started startedOther).run ranAll ranAllOther
  have replays := (start_replays started).1.of_run ranAll
  have replaysOther := (start_replays startedOther).1.of_run ranAllOther
  refine ⟨inStep.pace_eq, fun alike => inStep.time_eq ?_⟩
  rwa [replays.store_eq, replaysOther.store_eq]

/-- What an operation does with a session, if there is an operation at all. -/
def stepIf (session : Session α) : Option (Op α) → Except Fault (Session α × Option (Frame α))
  | some op => session.step op
  | none => .ok (session, none)

theorem run_toList_of_stepIf {op? : Option (Op α)} {shown : Option (Frame α)}
    (stepped : session.stepIf op? = .ok (next, shown)) :
    session.run op?.toList = .ok (next, shown.toList) := by
  cases op? with
  | none =>
      cases stepped
      rfl
  | some op =>
      have stops : next.run [] = .ok (next, []) := rfl
      have ran := run_cons_of_ok stepped stops
      rwa [List.append_nil] at ran

theorem stepIf_replays (replays : session.Replays store config) (op? : Option (Op α)) :
    ∃ next shown, session.stepIf op? = .ok (next, shown) ∧ next.Replays store config := by
  cases op? with
  | none => exact ⟨session, none, rfl, replays⟩
  | some op =>
      obtain ⟨next, shown, stepped, replaysNext, -⟩ := step_replays replays op
      exact ⟨next, shown, stepped, replaysNext⟩

end Session

namespace Comparison

/-! ## What an operation asks of each session -/

/-- What an operation asks of the session of the baseline. -/
def Op.forBaseline? : Op α → Option (Session.Op α)
  | .setSpeed speed => some (.setSpeed speed)
  | .tick delta => some (.tick delta)
  | .onBaseline op => some op
  | .onOptimized _ => none

/-- What an operation asks of the session of the optimized simulation. -/
def Op.forOptimized? : Op α → Option (Session.Op α)
  | .setSpeed speed => some (.setSpeed speed)
  | .tick delta => some (.tick delta)
  | .onBaseline _ => none
  | .onOptimized op => some op

/-- Whether an operation is one on the whole view. -/
def Op.IsShared : Op α → Prop
  | .setSpeed _ | .tick _ => True
  | .onBaseline _ | .onOptimized _ => False

omit [Scalar α] in
/-- Operations on the whole view ask the same of both sessions. -/
theorem filterMap_forBaseline?_of_isShared {ops : List (Op α)}
    (shared : ∀ op ∈ ops, op.IsShared) :
    ops.filterMap Op.forBaseline? = ops.filterMap Op.forOptimized? := by
  apply List.filterMap_congr
  intro op member
  cases op with
  | setSpeed | tick => rfl
  | onBaseline | onOptimized => exact (shared _ member).elim

variable {baseline : Store α} {optimized : Option (Store α)} {config : Config α}
  {view middle last : Comparison α}

theorem start_of_not_ordered (empty : ¬ config.playback.minSpeed ≤ config.playback.maxSpeed)
    (baseline : Store α) (optimized : Option (Store α)) :
    start baseline optimized config = .error .emptySpeedRange := by
  unfold start
  rw [Session.start_of_not_ordered empty]
  rfl

/-- The sessions of a comparison replay these stores. -/
structure Replays (baseline : Store α) (optimized : Option (Store α)) (config : Config α)
    (view : Comparison α) : Prop where
  baseline : view.baseline.Replays baseline config
  optimized : Option.Rel (fun store session => session.Replays store config) optimized
    view.optimized

/-- The sessions of a comparison are those that would be started alone. -/
theorem exists_start_of_ordered (ordered : config.playback.minSpeed ≤ config.playback.maxSpeed)
    (baseline : Store α) (optimized : Option (Store α)) :
    ∃ view, start baseline optimized config = .ok view ∧ view.Replays baseline optimized config ∧
      Session.start baseline config = .ok view.baseline ∧
      Option.Rel (fun store session => Session.start store config = .ok session) optimized
        view.optimized := by
  obtain ⟨first, started⟩ := Session.exists_start_of_ordered ordered baseline
  have replays := (Session.start_replays started).1
  cases optimized with
  | none =>
      refine ⟨⟨first, none⟩, ?_, ⟨replays, .none⟩, started, .none⟩
      rw [start, started]
      rfl
  | some store =>
      obtain ⟨second, startedSecond⟩ := Session.exists_start_of_ordered ordered store
      have replaysSecond := (Session.start_replays startedSecond).1
      refine ⟨⟨first, some second⟩, ?_, ⟨replays, .some replaysSecond⟩, started,
        .some startedSecond⟩
      rw [start, started]
      dsimp only [ifPresent, bind, Except.bind]
      rw [startedSecond]
      rfl

variable [Planar α]

/-- **Handing on.**  Whatever is done with a comparison is done with each session on its own. -/
theorem step_eq (view : Comparison α) (op : Op α) :
    view.step op = (do
      let baseline ← view.baseline.stepIf op.forBaseline?
      let optimized ← ifPresent view.optimized fun session => session.stepIf op.forOptimized?
      .ok (⟨baseline.1, optimized.map Prod.fst⟩, ⟨baseline.2, optimized.bind Prod.snd⟩)) := by
  obtain ⟨first, second⟩ := view
  cases op with
  | tick delta => cases second <;> rfl
  | setSpeed speed =>
      dsimp only [step, setSpeed, Op.forBaseline?, Op.forOptimized?, Session.stepIf, Session.step]
      cases first.setSpeed speed with
      | error fault => rfl
      | ok changed =>
          cases second with
          | none => rfl
          | some other =>
              dsimp only [ifPresent]
              cases other.setSpeed speed <;> rfl
  | onBaseline op =>
      dsimp only [step, Op.forBaseline?, Op.forOptimized?, Session.stepIf]
      cases first.step op with
      | error fault => rfl
      | ok next => cases second <;> rfl
  | onOptimized op =>
      dsimp only [step, Op.forBaseline?, Op.forOptimized?, Session.stepIf]
      cases second with
      | none => rfl
      | some other =>
          dsimp only [ifPresent]
          cases other.step op <;> rfl

/-! ## Runs of both -/

/-- A run that does with each session what a run of that one alone does with what is asked of it,
and that shows its frames. -/
structure GoesAlone (view : Comparison α) (ops : List (Op α)) (last : Comparison α)
    (shown : List (Shown α)) : Prop where
  baseline : view.baseline.run (ops.filterMap Op.forBaseline?) =
    .ok (last.baseline, shown.filterMap Shown.baseline)
  optimized : Option.Rel (fun session after => session.run (ops.filterMap Op.forOptimized?) =
    .ok (after, shown.filterMap Shown.optimized)) view.optimized last.optimized

/-- What each session does alone in two parts of a run, it does in both. -/
theorem GoesAlone.append {first second : List (Op α)} {earlier later : List (Shown α)}
    (goesFirst : view.GoesAlone first middle earlier)
    (goesSecond : middle.GoesAlone second last later) :
    view.GoesAlone (first ++ second) last (earlier ++ later) := by
  constructor
  · rw [List.filterMap_append, List.filterMap_append]
    exact Session.run_append goesFirst.baseline goesSecond.baseline
  · rw [List.filterMap_append, List.filterMap_append]
    exact optionRel_trans Session.run_append goesFirst.optimized goesSecond.optimized

/-- Each session does on its own what one operation on the comparison does with it. -/
theorem Replays.step (replays : view.Replays baseline optimized config) (op : Op α) :
    ∃ next shown, view.step op = .ok (next, shown) ∧ next.Replays baseline optimized config ∧
      view.GoesAlone [op] next [shown] := by
  have asked {β γ : Type} (f : β → Option γ) (b : β) : [b].filterMap f = (f b).toList := by
    cases found : f b <;> simp [found]
  obtain ⟨session, other⟩ := view
  obtain ⟨replaysFirst, replaysOther⟩ := replays
  obtain ⟨next, shown, stepped, replaysNext⟩ :=
    Session.stepIf_replays replaysFirst op.forBaseline?
  have ran := Session.run_toList_of_stepIf stepped
  cases replaysOther with
  | none =>
      refine ⟨⟨next, none⟩, ⟨shown, none⟩, ?_, ⟨replaysNext, .none⟩, ⟨?_, .none⟩⟩
      · rw [step_eq, stepped]
        rfl
      · rw [asked, asked]
        exact ran
  | some replaysSecond =>
      obtain ⟨nextOther, shownOther, steppedOther, replaysNextOther⟩ :=
        Session.stepIf_replays replaysSecond op.forOptimized?
      have ranOther := Session.run_toList_of_stepIf steppedOther
      refine ⟨⟨next, some nextOther⟩, ⟨shown, shownOther⟩, ?_,
        ⟨replaysNext, .some replaysNextOther⟩, ⟨?_, .some ?_⟩⟩
      · rw [step_eq, stepped]
        dsimp only [ifPresent]
        rw [steppedOther]
        rfl
      · rw [asked, asked]
        exact ran
      · rw [asked, asked]
        exact ranOther

theorem run_cons_of_ok {op : Op α} {rest : List (Op α)} {shown : Shown α} {later : List (Shown α)}
    (stepped : view.step op = .ok (middle, shown)) (ran : middle.run rest = .ok (last, later)) :
    view.run (op :: rest) = .ok (last, shown :: later) := by
  simp only [run, stepped, ran, bind, Except.bind]

/-- **Runs.**  A run of a comparison does not fail, and it is a run of each session. -/
theorem Replays.run (replays : view.Replays baseline optimized config) (ops : List (Op α)) :
    ∃ last shown, view.run ops = .ok (last, shown) ∧ view.GoesAlone ops last shown := by
  induction ops generalizing view with
  | nil =>
      refine ⟨view, [], rfl, rfl, ?_⟩
      cases view.optimized with
      | none => exact .none
      | some session => exact .some rfl
  | cons op rest ih =>
      obtain ⟨next, shown, stepped, replaysNext, goesFirst⟩ := replays.step op
      obtain ⟨last, later, ran, goesRest⟩ := ih replaysNext
      exact ⟨last, shown :: later, run_cons_of_ok stepped ran, goesFirst.append goesRest⟩

/-! ## Comparisons from their start on -/

/-- What a sequence of operations leaves of a comparison that is started for it, and what each of
them shows. -/
def replay (baseline : Store α) (optimized : Option (Store α)) (config : Config α)
    (ops : List (Op α)) : Except Fault (Comparison α × List (Shown α)) := do
  let view ← start baseline optimized config
  view.run ops

theorem replay_of_not_ordered (empty : ¬ config.playback.minSpeed ≤ config.playback.maxSpeed)
    (baseline : Store α) (optimized : Option (Store α)) (ops : List (Op α)) :
    replay baseline optimized config ops = .error .emptySpeedRange := by
  rw [replay, start_of_not_ordered empty]
  rfl

/-- A comparison whose settings leave a speed to choose can be started and run, and what it does
with its sessions is what each does that is started alone. -/
theorem exists_replay_of_ordered (ordered : config.playback.minSpeed ≤ config.playback.maxSpeed)
    (baseline : Store α) (optimized : Option (Store α)) (ops : List (Op α)) :
    ∃ last shown, replay baseline optimized config ops = .ok (last, shown) ∧
      Session.replay baseline config (ops.filterMap Op.forBaseline?) =
        .ok (last.baseline, shown.filterMap Shown.baseline) ∧
      Option.Rel (fun store session =>
        Session.replay store config (ops.filterMap Op.forOptimized?) =
          .ok (session, shown.filterMap Shown.optimized)) optimized last.optimized := by
  obtain ⟨view, started, replays, startedFirst, startedOther⟩ :=
    exists_start_of_ordered ordered baseline optimized
  obtain ⟨last, shown, ran, goesFirst, goesOther⟩ := replays.run ops
  refine ⟨last, shown, ?_, ?_, ?_⟩
  · rw [replay, started]
    exact ran
  · rw [Session.replay_of_start startedFirst]
    exact goesFirst
  · refine optionRel_trans ?_ startedOther goesOther
    intro store session after startedAlone ranAlone
    rw [Session.replay_of_start startedAlone]
    exact ranAlone

/-- **Independence.**  Each session of a comparison ends and shows what a session does that is
started alone and given the operations on it and on the view: it cannot be started where that
cannot, and what the other store holds, or whether there is one, does not matter.  As long as all
operations are on the view, the two clocks have the same speed, and run or stand together; and they
show the same time if both stores have something to replay, or neither has. -/
theorem sessions_run_apart (baseline optimized : Store α) (config : Config α)
    (ops : List (Op α)) :
    (config.playback.minSpeed ≤ config.playback.maxSpeed → ∀ other : Option (Store α),
      ∃ last shown, replay baseline other config ops = .ok (last, shown)) ∧
    (∀ other : Option (Store α),
      (replay baseline other config ops).map
          (fun done => (done.1.baseline, done.2.filterMap Shown.baseline)) =
        Session.replay baseline config (ops.filterMap Op.forBaseline?)) ∧
    (replay baseline (some optimized) config ops).map
        (fun done => (done.1.optimized, done.2.filterMap Shown.optimized)) =
      (Session.replay optimized config (ops.filterMap Op.forOptimized?)).map
        (fun done => (some done.1, done.2)) ∧
    ∀ last shown, replay baseline (some optimized) config ops = .ok (last, shown) →
      (∀ op ∈ ops, op.IsShared) →
        ∃ second, last.optimized = some second ∧
          last.baseline.clock.speed = second.clock.speed ∧
          last.baseline.clock.isPlaying = second.clock.isPlaying ∧
          ((0 < baseline.maxEndTime ↔ 0 < optimized.maxEndTime) →
            last.baseline.clock.time = second.clock.time) := by
  by_cases ordered : config.playback.minSpeed ≤ config.playback.maxSpeed
  · refine ⟨fun _ other => ?_, fun other => ?_, ?_, fun last shown ran shared => ?_⟩
    · obtain ⟨last, shown, ran, -⟩ := exists_replay_of_ordered ordered baseline other ops
      exact ⟨last, shown, ran⟩
    · obtain ⟨last, shown, ran, alone, -⟩ := exists_replay_of_ordered ordered baseline other ops
      rw [ran, alone]
      rfl
    · obtain ⟨⟨first, second⟩, shown, ran, -, alone⟩ :=
        exists_replay_of_ordered ordered baseline (some optimized) ops
      cases alone with
      | some alone =>
          rw [ran, alone]
          rfl
    · obtain ⟨⟨first, second⟩, frames, ranAgain, aloneFirst, alone⟩ :=
        exists_replay_of_ordered ordered baseline (some optimized) ops
      rw [ran] at ranAgain
      cases ranAgain
      cases alone with
      | some alone =>
          rw [filterMap_forBaseline?_of_isShared shared] at aloneFirst
          obtain ⟨samePace, sameTime⟩ := Session.replay_inStep aloneFirst alone
          exact ⟨_, rfl, congrArg Session.Pace.speed samePace,
            congrArg Session.Pace.isPlaying samePace, sameTime⟩
  · refine ⟨fun chosen => absurd chosen ordered, fun other => ?_, ?_, fun last shown ran => ?_⟩
    · rw [replay_of_not_ordered ordered, Session.replay_of_not_ordered ordered]
      rfl
    · rw [replay_of_not_ordered ordered, Session.replay_of_not_ordered ordered]
      rfl
    · rw [replay_of_not_ordered ordered] at ran
      cases ran

/-- A simulation that ends later than its optimized twin, at a speed that is too high and then at
one that is none. -/
theorem sessions_run_apart_beyond_end :
    let baseline : Store Float := ⟨[], [], [⟨"vehicle", [⟨9.0, 0.0, 0.0, 1.0⟩]⟩], [], [], none⟩
    let optimized : Store Float := ⟨[], [], [⟨"vehicle", [⟨2.0, 0.0, 0.0, 1.0⟩]⟩], [], [], none⟩
    let config : Config Float := .standard
    let ops : List (Op Float) :=
      [.tick 3.0, .setSpeed 100.0, .tick 0.5, .setSpeed Machine.undefined, .tick 0.25]
    config.playback.minSpeed ≤ config.playback.maxSpeed ∧ (∀ op ∈ ops, op.IsShared) ∧
      (0 < baseline.maxEndTime ↔ 0 < optimized.maxEndTime) ∧
      ∃ last shown second, replay baseline (some optimized) config ops = .ok (last, shown) ∧
        last.optimized = some second ∧ last.baseline.clock.speed = second.clock.speed ∧
        last.baseline.clock.isPlaying = second.clock.isPlaying ∧
        last.baseline.clock.time = second.clock.time := by
  intro baseline optimized config ops
  have ordered : config.playback.minSpeed ≤ config.playback.maxSpeed := by decide +kernel
  have shared : ∀ op ∈ ops, op.IsShared := by simp [ops, Op.IsShared]
  have alike : 0 < baseline.maxEndTime ↔ 0 < optimized.maxEndTime := by decide +kernel
  obtain ⟨runs, -, -, inStep⟩ := sessions_run_apart baseline optimized config ops
  obtain ⟨last, shown, ran⟩ := runs ordered (some optimized)
  obtain ⟨second, ended, sameSpeed, samePlaying, sameTime⟩ := inStep last shown ran shared
  exact ⟨ordered, shared, alike, last, shown, second, ran, ended, sameSpeed, samePlaying,
    sameTime alike⟩

end Comparison

end JunctionReplay
