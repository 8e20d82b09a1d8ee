import JunctionReplay.Clock
import JunctionReplay.Frame
import JunctionReplay.Settings
import JunctionReplay.Store

/-!
# Sessions

A session replays one store.  It remembers its clock and, for each vehicle of the store, the
heading that the vehicle last had; all else of a frame follows from the store and the time.

* `Session.Op` — what can be done with a session.
* `Session.step` — what one operation leaves and shows; only a change of speed can fail, and only
  when the settings allow no speed at all.
* `Session.run` — a sequence of operations.
-/

namespace JunctionReplay

/-- The replay of one store. -/
structure Session (α : Type) where
  store : Store α
  directions : Directions
  settings : PlaybackSettings α
  clock : Clock α
  /-- The last heading of each vehicle, in the order of the store. -/
  headings : List α
  deriving DecidableEq, Repr

/-- The colors shown to the sides of the intersection by several lights, of which the last one
counts. -/
def Store.signalsAt {α : Type} [Scalar α] (store : Store α) (directions : Directions) (time : α) :
    Keyed Approach Color :=
  store.lights.foldl
    (fun shown light =>
      shown.putAll (light.schedule.approachColors time store.signalConnections directions))
    []

namespace Session

variable {α : Type} [Scalar α]

/-- The headings of vehicles that have not moved yet. -/
def restHeadings (store : Store α) : List α :=
  store.vehicles.map fun _ => 0

/-- A session at the start of its replay, at the allowed speed nearest to the initial one. -/
def start (store : Store α) (config : Config α) : Except Fault (Session α) :=
  (config.playback.clampSpeed config.playback.initialSpeed).map fun speed =>
    { store := store
      directions := config.directions
      settings := config.playback
      clock := Clock.start speed config.playback.startsPlaying
      headings := restHeadings store }

/-- Lets the session run or stand. -/
def setPlaying (session : Session α) (isPlaying : Bool) : Session α :=
  { session with clock := session.clock.setPlaying isPlaying }

/-- Goes back to the start of the replay and forgets the headings. -/
def restart (session : Session α) : Session α :=
  { session with
    clock := session.clock.restart
    headings := restHeadings session.store }

/-- Sets the allowed speed that is nearest to the given one. -/
def setSpeed (session : Session α) (speed : α) : Except Fault (Session α) :=
  (session.settings.clampSpeed speed).map fun clamped =>
    { session with clock := session.clock.setSpeed clamped }

/-- Advances the clock, unless there is nothing to replay. -/
def advance (session : Session α) (delta : α) : Session α :=
  if 0 < session.store.maxEndTime then { session with clock := session.clock.advance delta }
  else session

variable [Planar α]

/-- The heading that a vehicle is left with at a time. -/
def nextHeading (time : α) (vehicle : Trajectory α) (heading : α) : α :=
  match vehicle.bracket? time with
  | some bracket => bracket.heading heading
  | none => heading

/-- The poses of vehicles with their former headings. -/
def posesAt (time : α) (vehicles : List (Trajectory α)) (headings : List α) : List (Pose α) :=
  (vehicles.zip headings).filterMap fun known => known.1.pose? time known.2

/-- The frame at the time of the clock. -/
def frame (session : Session α) : Frame α where
  time := session.clock.time
  poses := posesAt session.clock.time session.store.vehicles session.headings
  signals := session.store.signalsAt session.directions session.clock.time
  metrics := Metrics.compute session.store.vehicles session.clock.time

/-- The session after its frame has been shown. -/
def afterFrame (session : Session α) : Session α :=
  { session with
    headings := List.zipWith (nextHeading session.clock.time) session.store.vehicles
      session.headings }

/-- What can be done with a session. -/
inductive Op (α : Type) where
  | play
  | pause
  | toggle
  | restart
  | setSpeed (speed : α)
  /-- Advances the session by an amount of real time and shows the frame that it comes to. -/
  | tick (delta : α)
  /-- Shows the frame of the current time. -/
  | frame
  deriving DecidableEq, Repr

/-- What one operation leaves, and the frame that it shows. -/
def step (session : Session α) : Op α → Except Fault (Session α × Option (Frame α))
  | .play => .ok (session.setPlaying true, none)
  | .pause => .ok (session.setPlaying false, none)
  | .toggle => .ok (session.setPlaying (!session.clock.isPlaying), none)
  | .restart => .ok (session.restart, none)
  | .setSpeed speed => (session.setSpeed speed).map fun changed => (changed, none)
  | .tick delta =>
    let advanced := session.advance delta
    .ok (advanced.afterFrame, some advanced.frame)
  | .frame => .ok (session.afterFrame, some session.frame)

/-- What a sequence of operations leaves, and the frames that it shows. -/
def run (session : Session α) : List (Op α) → Except Fault (Session α × List (Frame α))
  | [] => .ok (session, [])
  | op :: rest => do
    let (next, shown) ← session.step op
    let (last, frames) ← next.run rest
    .ok (last, shown.toList ++ frames)

end Session

end JunctionReplay
