import JunctionReplay.CommandLine.Options
import JunctionReplay.CommandLine.Report
import JunctionReplay.Exchange
import JunctionReplay.Json.Pretty
import JunctionReplay.Settings.Document

/-!
# The program

The program reads the settings and one or two payloads, plays them, and sums up.  `prepare` does
all that comes in front of the first frame, and `execute` is the whole program for a constant
delta from frame to frame; a program in real time measures its deltas instead and goes through
the same steps.

What the program tells is collected line by line, so that nothing of it is lost when it fails.
-/

namespace JunctionReplay.CommandLine

/-- What is found under each path. -/
abbrev Files := String → FileState

/-- Work that tells what it does, and that may fail with a message. -/
abbrev Telling := ExceptT String (StateM (Array Log.Line))

/-- Tells lines. -/
def tell (lines : List Log.Line) : Telling Unit :=
  modify fun (told : Array Log.Line) => told ++ lines.toArray

/-- The words for work that breaks off without a result. -/
def breakdown : Fault → String
  | .stateTooLong | .windowTooLarge => "capacity overflow"
  | .placeOutsideState => "index out of bounds"
  | .emptySpeedRange => "min > max, or either was NaN"

/-- A result, or the failure of work that has none. -/
def orBreakdown {β : Type} (result : Except Fault β) : Telling β :=
  match result with
  | .ok value => pure value
  | .error fault => throw (breakdown fault)

/-- Reads the settings, for which the standard ones stand in. -/
def readConfig (files : Files) (path : String) : Telling (Config Float) := do
  match Config.ofFileOrStandard (files path) with
  | .error error => throw error.report
  | .ok config =>
    tell [if (files path).isPresent then configLine path config else noConfigLine path]
    pure config

/-- The notes of loading a payload. -/
def loadLines (path : String) (file : FileState) (timing : CycleTiming Float)
    (loaded : Except Fault (Loaded (Store Float))) : List Log.Line :=
  let notes :=
    match readText file with
    | .ok text => Payload.notesOfText text timing
    | .error _ => []
  notes ++
    match loaded with
    | .ok (.ok store) => [loadedLine path store]
    | .ok (.error error) => [Log.error (loadFailure path error)]
    | .error _ => []

/-- Reads a payload through a loader. -/
def readStore (files : Files) (config : Config Float) (path : String) : Telling (Store Float) := do
  let loaded := Payload.storeOfFile (files path) config.directions config.cycle
  tell [loadingLine path]
  tell (loadLines path (files path) config.cycle loaded)
  let (exchange, finished) := Exchange.start.load loaded
  match finished with
  | .error _ => throw ("Payload loader for " ++ path ++ " panicked")
  | .ok _ =>
    match exchange.take.2 with
    | some (.ok store) => pure store
    | some (.error error) => throw (loadFailure path error)
    | none => throw ("Payload loader for " ++ path ++ " finished without a result")

/-- Reads a payload and looks at its scene. -/
def readScene (files : Files) (config : Config Float) (path : String) : Telling (Store Float) := do
  let store ← readStore files config path
  tell (sceneLines store config)
  pure store

/-- A run in front of its first frame. -/
structure Plan where
  config : Config Float
  view : Comparison Float
  duration : Float
  deriving Repr

/-- Sets the speed that was asked for, if any was. -/
def applySpeed (view : Comparison Float) (speed : Option Float) : Telling (Comparison Float) := do
  match speed with
  | none => pure view
  | some speed =>
    tell ((sessionsOf view).flatMap fun session => speedLines session speed)
    orBreakdown (view.setSpeed speed)

/-- Does all that comes in front of the first frame. -/
def prepare (files : Files) (options : Options) : Telling Plan := do
  tell [Log.info "Starting Traffic Playback"]
  let config ← readConfig files options.config
  let baseline ← readScene files config options.payload
  let optimized ←
    match options.compare with
    | some path => some <$> readScene files config path
    | none => pure none
  let view ← applySpeed (← orBreakdown (Comparison.start baseline optimized config)) options.speed
  let speed := view.baseline.clock.speed
  match runDuration options.duration view.maxEndTime speed with
  | .error bad => throw bad.message
  | .ok duration =>
    tell (planLines options.payload options.compare options.fast speed config.playback.frameRate
      duration)
    pure ⟨config, view, duration⟩

/-- The notes on the deltas of a frame, and what it reports. -/
def runFrameLines (before : Comparison Float) (delta : Float) (frame : RunFrame Float) :
    List Log.Line :=
  (sessionsOf before).flatMap (fun session => deltaLines session delta) ++
    if frame.isReported then frameLines frame else []

/-- The lines of a run, of which a frame that is not reported tells nothing. -/
def reportLines (plan : Plan) (delta : Float) (summary : RunSummary Float) : List Log.Line :=
  summary.reports.flatMap fun frame => runFrameLines plan.view delta frame

/-- The delta of a program that does not wait for real time to pass, and of one that does not see
any pass. -/
def constantDelta (config : Config Float) (fast : Bool) : Float :=
  if fast then config.playback.frameDelta else 0.0

/-- The whole program for a constant delta; the result is what it prints. -/
def execute (files : Files) (options : Options) : Telling (Option String) := do
  let plan ← prepare files options
  let delta := constantDelta plan.config options.fast
  match Run.play plan.view delta plan.duration with
  | none => throw "The run has no end"
  | some summary =>
    tell (reportLines plan delta summary)
    tell (summaryLines summary.last)
    pure (if options.json then some (documentOf summary.last) else none)

/-- What a program leaves. -/
structure Outcome where
  exitCode : Nat
  printed : String
  log : List Log.Line
  /-- The message of a failure. -/
  failure : Option String
  deriving Repr

/-- What work leaves, of which a log shows only the lines of its levels. -/
def outcomeOf (verbose : Bool) (work : Telling (Option String)) : Outcome :=
  let (result, told) := StateT.run (ExceptT.run work) #[]
  let log := told.toList.filter (Log.Line.isShown verbose)
  match result with
  | .ok (some document) => ⟨0, document ++ "\n", log, none⟩
  | .ok none => ⟨0, "", log, none⟩
  | .error message => ⟨1, "", log, some message⟩

/-- What a program leaves that is started with the given arguments. -/
def outcome (files : Files) (arguments : List String) : Outcome :=
  match Options.ofArguments arguments with
  | .error .badArguments => ⟨2, "", [], none⟩
  | .error .helpWanted => ⟨0, helpText ++ "\n", [], none⟩
  | .ok options => outcomeOf options.verbose (execute files options)

end JunctionReplay.CommandLine
