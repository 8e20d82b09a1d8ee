import JunctionReplay.Scalar.Machine
import JunctionReplay.Settings
import JunctionReplay.TextFile
import JunctionReplay.Toml.Document
import JunctionReplay.Toml.Excerpt

/-!
# Settings as documents

Settings are written as a TOML document with a table for each group.  What the document does not
set keeps its standard value, and what it sets beyond the settings is passed over.

The settings of a group may also be written as a list in their order.  Faults are reported in the
order of the document, and before those that the checks of `Settings` find.
-/

namespace JunctionReplay

open Toml (Value)

/-- Why there are no settings. -/
inductive ConfigError where
  | unreadable (fault : ReadFault)
  /-- The text is not a TOML document. -/
  | malformed
  /-- A value is of the wrong shape; the excerpt shows where. -/
  | wrongShape (error : ShapeError) (excerpt : Toml.Excerpt)
  | unusable (error : SettingsError Float)
  deriving Repr

namespace ConfigError

/-- The message for missing settings. -/
def message : ConfigError → String
  | .unreadable fault => fault.message
  | .malformed => "TOML parse error"
  | .wrongShape error _ => error.message Decimal.plainFraction
  | .unusable error => error.message

/-- The message together with what it is about. -/
def report : ConfigError → String
  | .wrongShape error excerpt => excerpt.render (error.message Decimal.plainFraction)
  | other => other.message

end ConfigError

namespace Toml

/-- A value of the wrong shape.  As long as its place is not known, it counts as that of what holds
the value. -/
structure Misfit where
  error : ShapeError
  place : Option Place
  deriving Repr, DecidableEq

/-- A misfit of which the place is not known. -/
def Misfit.of (error : ShapeError) : Misfit := ⟨error, none⟩

/-- Gives a misfit the place of what holds it, unless it has one of its own. -/
def Misfit.within (holder : Option Place) (misfit : Misfit) : Misfit :=
  { misfit with place := misfit.place.or holder }

/-- What comes of reading a value of a document. -/
abbrev Decoded (β : Type) := Except Misfit β

/-- Reads one value of a document. -/
abbrev Decoder (β : Type) := Value → Decoded β

namespace Decoder

/-- A value of another kind than the one asked for. -/
def mismatch {β : Type} (value : Value) (wanted : Wanted) : Decoded β :=
  .error (.of (.wrongKind value.found wanted))

/-- A number, whole or not. -/
def real : Decoder Float
  | .real value => .ok value
  | .integer value => .ok (Float.ofInt value)
  | other => mismatch other .real

/-- A natural number; `wanted` tells what it is for. -/
def natural (wanted : Wanted) : Decoder Nat
  | .integer value =>
    if 0 ≤ value then .ok value.toNat else .error (.of (.wrongValue (.integer value) wanted))
  | other => mismatch other wanted

/-- Yes or no. -/
def truth : Decoder Bool
  | .truth value => .ok value
  | other => mismatch other .truth

end Decoder

/-- Reads a value in its place. -/
def Located.decode {β : Type} (decoder : Decoder β) (value : Located Value) : Decoded β :=
  (decoder value.content).mapError (Misfit.within value.place)

/-- A field of a group: its name, and how its value is entered. -/
structure GroupField (δ : Type) where
  name : String
  enter : Located Value → δ → Decoded δ

/-- A field that is entered once it has been read. -/
def GroupField.of {β δ : Type} (name : String) (decoder : Decoder β) (put : β → δ → δ) :
    GroupField δ where
  name := name
  enter value group := (value.decode decoder).map fun read => put read group

/-- Enters an entry of a table into a group, if it names a field. -/
def enterEntry {δ : Type} (fields : List (GroupField δ)) (group : δ)
    (entry : Key × Located Value) : Decoded δ :=
  match fields.find? fun field => field.name = entry.1.name with
  | some field => (field.enter entry.2 group).mapError (Misfit.within (some entry.1.place))
  | none => .ok group

/-- Enters the items of a list into a group, one for each field. -/
def enterItems {δ : Type} (fields : List (GroupField δ)) (group : δ)
    (items : List (Located Value)) : Decoded δ :=
  (fields.zip items).foldlM (fun group pair => pair.1.enter pair.2 group) group

/-- Reads a group with the given fields over its standard values. -/
def group {δ : Type} (name : String) (fields : List (GroupField δ)) (standard : δ) : Decoder δ
  | .table entries => entries.foldlM (enterEntry fields) standard
  | .list items | .tables items => enterItems fields standard items
  | .moment _ => .ok standard
  | other => Decoder.mismatch other (.record name)

end Toml

open Toml (GroupField Decoded Decoder Key Located Misfit group)
open Toml.Decoder (real natural truth)

namespace PlaybackSettings

/-- The fields of the settings of the playback. -/
def fields : List (GroupField (PlaybackSettings Float)) :=
  [ .of "initial_speed" real fun read settings => { settings with initialSpeed := read },
    .of "min_speed" real fun read settings => { settings with minSpeed := read },
    .of "max_speed" real fun read settings => { settings with maxSpeed := read },
    .of "start_playing" truth fun read settings => { settings with startsPlaying := read },
    .of "frame_rate" real fun read settings => { settings with frameRate := read } ]

/-- Reads the settings of the playback. -/
def decode : Decoder (PlaybackSettings Float) := group "PlaybackSettings" fields .standard

end PlaybackSettings

namespace CycleTiming

/-- The fields of the timing of the standard cycle. -/
def fields : List (GroupField (CycleTiming Float)) :=
  [ .of "ns_green" real fun read timing => { timing with northSouthGreen := read },
    .of "ns_yellow" real fun read timing => { timing with northSouthYellow := read },
    .of "ew_green" real fun read timing => { timing with eastWestGreen := read },
    .of "ew_yellow" real fun read timing => { timing with eastWestYellow := read },
    .of "fallback_state_length" (natural .size) fun read timing =>
      { timing with fallbackStateLength := read } ]

/-- Reads the timing of the standard cycle. -/
def decode : Decoder (CycleTiming Float) := group "SignalTiming" fields .standard

end CycleTiming

namespace SceneSettings

/-- The fields of the settings of the scene. -/
def fields : List (GroupField (SceneSettings Float)) :=
  [ .of "seed" (natural .count64) fun read settings => { settings with seed := some read },
    .of "road_lane_width" real fun read settings =>
      { settings with laneWidth := some read } ]

/-- Reads the settings of the scene. -/
def decode : Decoder (SceneSettings Float) := group "SceneSettings" fields .standard

end SceneSettings

namespace Approach

/-- The side with the given name, or the fault that it is none. -/
def ofName (name : String) : Decoded Approach :=
  match ofLabel? name with
  | some approach => .ok approach
  | none => .error (.of (.unknownChoice name (all.map label)))

/-- Checks what a side carries, which has to be empty. -/
def checkContent : Decoder Unit
  | .list [] | .tables [] | .table [] => .ok ()
  | .tables _ => .error (.of .choiceWithTables)
  | .list _ | .table _ => .error (.of .choiceWithEntries)
  | other => .error (.of (.choiceWithContent other.kind))

/-- Reads a side, which is a name or a table whose one entry has that name. -/
def decode : Decoder Approach
  | .text name => ofName name
  | .table [] => .error (.of .noChoice)
  | .table [(key, content)] => do
    let approach ← (ofName key.name).mapError (Misfit.within (some key.place))
    content.decode checkContent
    .ok approach
  | .table _ => .error (.of .severalChoices)
  | _ => .error (.of .notAChoice)

end Approach

namespace Directions

/-- Enters the side that one road comes from. -/
def enterRoad (read : Directions) (entry : Key × Located Value) : Decoded Directions :=
  ((entry.2.decode Approach.decode).mapError (Misfit.within (some entry.1.place))).map fun side =>
    Keyed.put entry.1.name side read

/-- Reads which side each road comes from.  A moment counts as a table with its text for a
side. -/
def decode : Decoder Directions
  | .table entries => entries.foldlM enterRoad []
  | .moment written => (Approach.ofName written).map fun _ => []
  | other => Decoder.mismatch other .table

end Directions

namespace Config

/-- The groups of the settings. -/
def fields : List (GroupField (Config Float)) :=
  [ .of "playback" PlaybackSettings.decode fun read config => { config with playback := read },
    .of "signals" CycleTiming.decode fun read config => { config with cycle := read },
    .of "directions" Directions.decode fun read config => { config with directions := read },
    .of "scene" SceneSettings.decode fun read config => { config with scene := read } ]

/-- Reads all settings, without checking them. -/
def decode : Decoder (Config Float) := group "PlaybackConfig" fields .standard

/-- The excerpt of a text that shows a misfit. -/
def excerptFor (text : String) (misfit : Misfit) : Toml.Excerpt :=
  .ofPlace text.toList (misfit.place.getD ⟨text.toList, []⟩)

/-- The usable settings of a text. -/
def ofText (text : String) : Except ConfigError (Config Float) :=
  match Value.ofText? text with
  | none => .error .malformed
  | some document =>
    match decode document with
    | .error misfit => .error (.wrongShape misfit.error (excerptFor text misfit))
    | .ok config =>
      match config.check with
      | .error error => .error (.unusable error)
      | .ok () => .ok config

/-- The usable settings of a file. -/
def ofFile (file : FileState) : Except ConfigError (Config Float) :=
  match readText file with
  | .error fault => .error (.unreadable fault)
  | .ok text => ofText text

/-- The usable settings of a file, or the standard ones if there is nothing under its path. -/
def ofFileOrStandard (file : FileState) : Except ConfigError (Config Float) :=
  if file.isPresent then ofFile file else .ok .standard

end Config

end JunctionReplay
