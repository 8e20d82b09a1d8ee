import JunctionReplay.CommandLine.Program
import JunctionReplay.FrameMeter
import JunctionReplay.Pace

/-!
# The command line

Reads the files, plays in real time or as fast as it can, and writes the log to the standard
error and the last frame to the standard output.
-/

namespace JunctionReplay.CommandLine

/-- Writes a line of the log, if its level is shown. -/
def showLine (verbose : Bool) (line : Log.Line) : IO Unit := do
  if line.isShown verbose then
    let padding := String.ofList (List.replicate (5 - line.level.name.length) ' ')
    IO.eprintln ("[" ++ line.level.name ++ padding ++ " traffic_playback] " ++ line.written)

/-- Writes lines of the log. -/
def showLines (verbose : Bool) (lines : List Log.Line) : IO Unit :=
  lines.forM (showLine verbose)

/-- What is found under a path; a file that cannot be opened counts as missing. -/
def readFile (path : String) : IO FileState := do
  try
    return .bytes (← IO.FS.readBinFile path)
  catch error =>
    match error with
    | .inappropriateType none _ _ => return .folder
    | .inappropriateType (some _) _ _ => return .blocked
    | .invalidArgument _ _ _ => return .unnamable
    | _ => return .missing

/-- Reads the files that options name. -/
def readFiles (options : Options) : IO Files := do
  let paths := options.config :: options.payload :: options.compare.toList
  let contents ← paths.mapM fun path => do return (path, ← readFile path)
  return fun path => (contents.lookup path).getD .missing

/-- The line on the pace of a frame. -/
def paceLine (meter : FrameMeter) (frames : Nat) : Except MeanFault Log.Line := do
  let pace ← meter.window.meanPace
  let milliseconds : Float := FrameWindow.inSeconds (← meter.window.meanResolve) * 1000.0
  return Log.debug <| "Frame " ++ Decimal.natText frames ++ ": " ++ Decimal.fixed 1 pace ++
    " FPS, resolve " ++ Decimal.fixed 3 milliseconds ++ "ms"

/-- Writes the line on the pace of a frame, which only a verbose log computes. -/
def showPace (verbose : Bool) (meter : FrameMeter) (frames : Nat) : IO Unit := do
  if verbose then
    match paceLine meter frames with
    | .ok line => showLine verbose line
    | .error fault => throw (IO.userError fault.message)

/-- Pauses for a number of seconds. -/
def pauseFor (seconds : Float) : IO Unit :=
  match checkPause seconds with
  | .ok () => IO.sleep (seconds * 1000.0).toUInt32
  | .error fault => throw (IO.userError fault.message)

/-- Plays frames until the run is over, and gives the last one. -/
partial def playFrames (options : Options) (plan : Plan) (meter : FrameMeter) (run : Run Float) :
    IO (RunFrame Float) := do
  let (meter, passed) := meter.beginFrame (← IO.monoNanosNow)
  let frameDelta := plan.config.playback.frameDelta
  let delta := if options.fast then frameDelta else FrameWindow.inSeconds passed
  let before ← IO.monoNanosNow
  let frame := run.advance delta
  let meter := meter.endResolve ((← IO.monoNanosNow) - before)
  showLines options.verbose (runFrameLines run.view delta frame)
  if frame.isReported then
    showPace options.verbose meter frame.next.frames
  if frame.next.isOver plan.duration then
    return frame
  else
    if !options.fast then
      pauseFor frameDelta
    playFrames options plan meter frame.next

/-- Plays what has been prepared, and sums up. -/
def playPlan (options : Options) (plan : Plan) : IO Unit := do
  let (meter, _) := (FrameMeter.start 120).beginFrame (← IO.monoNanosNow)
  let last ← playFrames options plan meter (Run.start plan.view)
  showLines options.verbose (summaryLines last)
  if options.json then
    IO.println (documentOf last)

/-- Does what the options ask for, and gives the exit code. -/
def runProgram (options : Options) : IO UInt32 := do
  let files ← readFiles options
  let (result, told) := StateT.run (ExceptT.run (prepare files options)) #[]
  showLines options.verbose told.toList
  match result with
  | .error message =>
    IO.eprintln ("Error: " ++ message)
    return 1
  | .ok plan =>
    playPlan options plan
    return 0

end JunctionReplay.CommandLine

open JunctionReplay.CommandLine in
/-- The program. -/
def main (arguments : List String) : IO UInt32 := do
  match Options.ofArguments arguments with
  | .error .badArguments =>
    IO.eprintln "error: the arguments cannot be used; try '--help'"
    return 2
  | .error .helpWanted =>
    IO.println helpText
    return 0
  | .ok options => runProgram options
