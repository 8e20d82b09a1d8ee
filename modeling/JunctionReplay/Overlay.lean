import JunctionReplay.Clock
import JunctionReplay.Decimal.Written
import JunctionReplay.Frame

/-!
# The overlay

The panel of text over the scene that sums up a frame: the progress of the replay, the vehicles,
the signals in the order of their labels, and the speed.
-/

namespace JunctionReplay

namespace Approach

/-- All sides in the order of their labels. -/
def byLabel : List Approach := [.east, .north, .south, .west]

end Approach

namespace Overlay

open Decimal (natText fixed plain rounded)

/-- The line for what a side of the intersection is signalled. -/
def lightLine (approach : Approach) (color : Color) : String :=
  "Light " ++ approach.label ++ ": " ++ color.word

/-- The lines for the sides that are signalled anything. -/
def lightLines (signals : Keyed Approach Color) : List String :=
  Approach.byLabel.filterMap fun approach =>
    (signals.get? approach).map (lightLine approach)

/-- The lines of the panel. -/
def lines (frame : Frame Float) (clock : Clock Float) : List String :=
  let metrics := frame.metrics
  [ "Status: " ++ (if clock.isPlaying then "PLAYING" else "PAUSED"),
    "Progress: " ++ rounded (metrics.progress * 100.0) ++ "%",
    "Time: " ++ fixed 1 frame.time ++ " / " ++ fixed 1 metrics.totalTime ++ " s",
    "Vehicles: " ++ natText metrics.total ++ " total",
    "Active: " ++ natText metrics.active,
    "Completed: " ++ natText metrics.completed,
    "Avg Speed: " ++ fixed 1 (metrics.averageSpeed * 3.6) ++ " km/h" ] ++
  lightLines frame.signals ++
  [ "Speed: " ++ plain clock.speed ++ "x" ]

/-- The panel as one text. -/
def render (frame : Frame Float) (clock : Clock Float) : String :=
  "\n".intercalate (lines frame clock)

end Overlay

end JunctionReplay
