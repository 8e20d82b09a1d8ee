import JunctionReplay.Json.Pretty
import JunctionReplay.Log
import JunctionReplay.Overlay
import JunctionReplay.Payload.Read
import JunctionReplay.Run
import JunctionReplay.Scene.Road

/-!
# What the program reports

The lines that the program writes to its log while it loads, plays and sums up.
-/

namespace JunctionReplay.CommandLine

open Decimal (natText plain fixed fixedSigned)

/-! ## Loading -/

/-- The note on settings that are not there. -/
def noConfigLine (path : String) : Log.Line :=
  Log.info <| "No config at " ++ path ++ ", using built-in defaults"

/-- The note on settings that have been read. -/
def configLine (path : String) (config : Config Float) : Log.Line :=
  Log.debug <| "Loaded playback config from " ++ path ++ " (" ++
    natText config.directions.length ++ " road directions)"

/-- The note in front of a payload. -/
def loadingLine (path : String) : Log.Line :=
  Log.info <| "Loading simulation from " ++ path ++ "..."

/-- The note on a payload that has been read. -/
def loadedLine (path : String) (store : Store Float) : Log.Line :=
  Log.info <| "Loaded payload " ++ path ++ ": " ++ natText store.vehicles.length ++
    " vehicles, " ++ natText store.edges.length ++ " edges, " ++ natText store.lights.length ++
    " traffic lights, " ++ fixed 1 store.maxEndTime ++ "s of playback"

/-- The words for a payload that cannot be read. -/
def loadFailure (path : String) (error : PayloadError) : String :=
  "Error loading simulation data from " ++ path ++ ": " ++ error.message

/-! ## The scene -/

/-- A point between brackets. -/
def pointText (point : Point Float) : String :=
  "(" ++ fixed 1 point.x ++ ", " ++ fixed 1 point.y ++ ")"

/-- The notes on a scene: the edges that are not drawn, the bounds, and the roads. -/
def sceneLines (store : Store Float) (config : Config Float) : List Log.Line :=
  let bounds := SceneBounds.ofStore store
  let laneWidth := config.scene.laneWidth.getD standardLaneWidth
  (store.undrawnEdges bounds).map (fun edge =>
    Log.debug <| "Edge " ++ edge.id ++ " references a missing node; not drawn") ++
  [ Log.debug <| "Scene: road center " ++ pointText bounds.roadCenter ++ ", vehicle offset " ++
      pointText bounds.vehicleCenter ] ++
  (store.roadStrips bounds laneWidth).map (fun strip =>
    Log.debug <| "Road " ++ strip.edge ++ ": " ++ fixed 1 strip.length ++ "m long, " ++
      fixed 1 strip.width ++ "m wide, " ++ natText strip.dividers.length ++ " lane dividers") ++
  [ Log.debug <| "Assigned " ++ natText store.vehicles.length ++ " vehicle colors" ]

/-! ## Playing -/

/-- The notes on a change of speed. -/
def speedLines (session : Session Float) (speed : Float) : List Log.Line :=
  match session.settings.clampSpeed speed with
  | .error _ => []
  | .ok clamped =>
    (if Clock.isSpeed clamped then []
      else [ Log.warn <| "Ignoring non-positive playback speed " ++ plain clamped ]) ++
    [ Log.debug <| "Playback speed: " ++ plain (session.clock.setSpeed clamped).speed ++ "x" ]

/-- The note on a delta that a session cannot be advanced by. -/
def deltaLines (session : Session Float) (delta : Float) : List Log.Line :=
  if 0.0 < session.store.maxEndTime ∧ session.clock.isPlaying ∧ !Clock.isDelta delta then
    [ Log.debug <| "Ignoring invalid frame delta " ++ plain delta ]
  else []

/-- The sessions of a comparison. -/
def sessionsOf (view : Comparison Float) : List (Session Float) :=
  view.baseline :: view.optimized.toList

/-- The notes in front of a run. -/
def planLines (payload : String) (compare : Option String) (fast : Bool)
    (speed frameRate duration : Float) : List Log.Line :=
  [ Log.info "=== Playback Configuration ===",
    Log.info <| "Payload: " ++ payload ] ++
  compare.toList.map (fun path => Log.info <| "Comparing against: " ++ path) ++
  [ Log.info <| "Speed: " ++ plain speed ++ "x, frame rate " ++ fixed 0 frameRate ++ " Hz",
    Log.info <| "Running for " ++ fixed 1 duration ++ "s (" ++
      (if fast then "fast" else "real time") ++ ")" ]

/-- The line that shows a frame. -/
def frameLine (label : String) (frame : Frame Float) (session : Session Float) : Log.Line :=
  Log.info <| "[" ++ label ++ "] " ++ " | ".intercalate (Overlay.lines frame session.clock)

/-- The line that shows the frame of the optimized simulation, if there is one. -/
def optimizedLines (frame : RunFrame Float) : List Log.Line :=
  match frame.shown.optimized, frame.next.view.optimized with
  | some shown, some session => [frameLine "optimized" shown session]
  | _, _ => []

/-- The lines that show a frame of a run. -/
def frameLines (frame : RunFrame Float) : List Log.Line :=
  frameLine "original" frame.shown.baseline frame.next.view.baseline :: optimizedLines frame

/-! ## Summing up -/

/-- The line that compares the reported figures. -/
def deltaLine (delta : ResultsDelta Float) : Log.Line :=
  Log.info <| "Optimized vs original: avg speed " ++ fixedSigned 2 delta.averageSpeed ++
    " m/s, avg travel time " ++ fixedSigned 2 delta.averageTravelTime ++
    " s, avg waiting time " ++ fixedSigned 2 delta.averageWaitingTime ++ " s"

/-- The line that shows the reported figures. -/
def resultsLine (results : Results Float) : Log.Line :=
  Log.info <| "Backend results: " ++ plain results.totalVehicles ++ " vehicles, avg speed " ++
    fixed 2 results.averageSpeed ++ " m/s, avg travel " ++ fixed 1 results.averageTravelTime ++
    " s, avg waiting " ++ fixed 1 results.averageWaitingTime ++ " s"

/-- The lines behind a run. -/
def summaryLines (last : RunFrame Float) : List Log.Line :=
  [ Log.info <| "Playback finished after " ++ natText last.next.frames ++ " frames" ] ++
  frameLines last ++
  (last.next.view.resultsDelta?.toList.map deltaLine) ++
  (last.next.view.baseline.store.results.toList.map resultsLine)

/-- The last frame as a document. -/
def documentOf (last : RunFrame Float) : String :=
  last.shown.baseline.toDocument.pretty 0

end JunctionReplay.CommandLine
