import Mathlib.Data.List.Basic
import Mathlib.Logic.Relation
import JunctionReplay.Proofs.Json.Edits
import JunctionReplay.Proofs.Payload.Forms
import JunctionReplay.Proofs.Payload.Stores

/-!
# Edits of payloads

A payload that is read without a complaint still is if keys that need not be there are deleted from
it, however many and at whatever depth; keys that mean nothing at their place may be added without
any effect on the store.

The shapes of a payload say what may be deleted and which keys mean something.  They stand here
apart from the readers, and for each reader it is shown that it tolerates the edits of its shape.
What an added key may show in are the values of `tl`, which are kept as they are; they are only
asked for an index, so of a connection no more than that index is in view.

## Main Definitions

* `Payload.shapeOf` — the shape of a document, which wraps an outcome or is one itself.
* `Payload.Edited` — keys are deleted from a document, or added to it.

## Main Statements

* `Payload.tolerates_output` — the reader of an outcome, put together from those below it.
* `Payload.follows_recordsOf` — a single edit of a document, be its outcome wrapped or bare.
* `Payload.storeOfText_tolerates` — what this means for texts and their stores.
-/

namespace JunctionReplay.Payload

open Json (Value Decoder RecordField Shape Key Change Edit KeyEdit Covers Enters Follows Respects
  Tolerates record)
open Json.Decoder (real count32 text list nullable any)

/-! ## Shapes -/

/-- The shape of a sample. -/
def positionShape : Shape :=
  .record
    [ .required "time" .scalar,
      .required "x" .scalar,
      .required "y" .scalar,
      .optional "speed" .scalar ]

/-- The shape of a vehicle. -/
def vehicleShape : Shape :=
  .record [.required "id" .scalar, .optional "positions" (.list positionShape)]

/-- The shape of a node. -/
def nodeShape : Shape :=
  .record
    [ .required "id" .scalar,
      .required "x" .scalar,
      .required "y" .scalar,
      .optional "type" .scalar ]

/-- The shape of an edge. -/
def edgeShape : Shape :=
  .record
    [ .required "id" .scalar,
      .required "from" .scalar,
      .required "to" .scalar,
      .optional "speed" .scalar,
      .optional "lanes" .scalar ]

/-- The shape of a phase. -/
def phaseShape : Shape :=
  .record [.optional "duration" .scalar, .optional "state" .scalar]

/-- The shape of a traffic light. -/
def lightShape : Shape :=
  .record [.required "id" .scalar, .optional "phases" (.list phaseShape)]

/-- The shape of a connection. -/
def connectionShape : Shape :=
  .record
    [ .required "from" .scalar,
      .required "to" .scalar,
      .optional "fromLane" .scalar,
      .optional "toLane" .scalar,
      .optional "tl" (.nullable .anything) ]

/-- The shape of an intersection. -/
def intersectionShape : Shape :=
  .record
    [ .optional "nodes" (.list nodeShape),
      .optional "edges" (.list edgeShape),
      .optional "trafficLights" (.nullable (.list lightShape)),
      .optional "connections" (.list connectionShape) ]

/-- The keys of an outcome. -/
def outputKeys : List (Key Shape) :=
  [.optional "vehicles" (.list vehicleShape), .optional "intersection" intersectionShape]

/-- The shape of an outcome. -/
def outputShape : Shape := .record outputKeys

/-- The shape of reported figures. -/
def resultsShape : Shape :=
  .record
    [ .optional "average_speed" .scalar,
      .optional "average_travel_time" .scalar,
      .optional "average_waiting_time" .scalar,
      .optional "total_vehicles" .scalar,
      .optional "total_travel_time" .scalar ]

/-- The key of a wrapped outcome, which is not deleted: without it the document itself is the
outcome. -/
def outputKey : Key Shape := .required "output" outputShape

/-- The key of reported figures. -/
def resultsKey : Key Shape := .optional "results" resultsShape

/-- The keys of a document that is an object.  Beside a wrapped outcome none is looked at but that
of reported figures. -/
def documentKeys (wraps : Bool) : List (Key Shape) :=
  outputKey :: resultsKey :: if wraps then [] else outputKeys

/-- The shape of a document, which for a list is that of an outcome. -/
def shapeOf : Value → Shape
  | .list _ => outputShape
  | document => .record (documentKeys (document.member? "output").isSome)

theorem shapeOf_object (members : Keyed String Value) :
    shapeOf (.object members) =
      .record (documentKeys ((Value.object members).member? "output").isSome) := rfl

/-- A document is edited any number of times. -/
def Edited (change : Change) : Value → Value → Prop :=
  Relation.ReflTransGen fun document edited => Edit change (shapeOf document) document edited

/-! ## Records -/

/-- A field with a list, if it is there. -/
theorem optional_list {change : Change} {β δ : Type} {shape : Shape} {decoder : Decoder β}
    (tolerates : Tolerates change shape decoder id) (name : String) (put : List β → δ → δ) :
    Enters change id (.optional name (.list shape)) (.optional name (list decoder) put) :=
  tolerates.list.optional (Json.respects_id Function.injective_id.list_map put) name

section

variable (change : Change)

/-- A field that is read as a whole. -/
theorem required_scalar {β δ : Type} (name : String) (decoder : Decoder β) (put : β → δ → δ) :
    Enters change id (.required name .scalar) (.required name decoder put) :=
  have respects : Respects id id put := Json.respects_id Function.injective_id put
  (Json.tolerates_scalar change decoder id).required respects name

/-- A field that is read as a whole, if it is there. -/
theorem optional_scalar {β δ : Type} (name : String) (decoder : Decoder β) (put : β → δ → δ) :
    Enters change id (.optional name .scalar) (.optional name decoder put) :=
  have respects : Respects id id put := Json.respects_id Function.injective_id put
  (Json.tolerates_scalar change decoder id).optional respects name

theorem tolerates_position : Tolerates change positionShape PositionRecord.decode id :=
  Json.tolerates_record
    (.cons (required_scalar change "time" real _) <|
      .cons (required_scalar change "x" real _) <|
      .cons (required_scalar change "y" real _) <|
      .cons (optional_scalar change "speed" real _) .nil) _ _

theorem tolerates_vehicle : Tolerates change vehicleShape VehicleRecord.decode id :=
  Json.tolerates_record
    (.cons (required_scalar change "id" text _) <|
      .cons (optional_list (tolerates_position change) "positions" _) .nil) _ _

theorem tolerates_node : Tolerates change nodeShape NodeRecord.decode id :=
  Json.tolerates_record
    (.cons (required_scalar change "id" text _) <|
      .cons (required_scalar change "x" real _) <|
      .cons (required_scalar change "y" real _) <|
      .cons (optional_scalar change "type" text _) .nil) _ _

theorem tolerates_edge : Tolerates change edgeShape EdgeRecord.decode id :=
  Json.tolerates_record
    (.cons (required_scalar change "id" text _) <|
      .cons (required_scalar change "from" text _) <|
      .cons (required_scalar change "to" text _) <|
      .cons (optional_scalar change "speed" real _) <|
      .cons (optional_scalar change "lanes" count32 _) .nil) _ _

theorem tolerates_phase : Tolerates change phaseShape PhaseRecord.decode id :=
  Json.tolerates_record
    (.cons (optional_scalar change "duration" real _) <|
      .cons (optional_scalar change "state" (nullable text) _) .nil) _ _

theorem tolerates_light : Tolerates change lightShape LightRecord.decode id :=
  Json.tolerates_record
    (.cons (required_scalar change "id" text _) <|
      .cons (optional_list (tolerates_phase change) "phases" _) .nil) _ _

theorem tolerates_results : Tolerates change resultsShape decodeResults id :=
  Json.tolerates_record
    (.cons (optional_scalar change "average_speed" real _) <|
      .cons (optional_scalar change "average_travel_time" real _) <|
      .cons (optional_scalar change "average_waiting_time" real _) <|
      .cons (optional_scalar change "total_vehicles" real _) <|
      .cons (optional_scalar change "total_travel_time" real _) .nil) _ _

/-! ### Connections, of which the values of `tl` show in their index only -/

/-- What of a connection gets into a store. -/
def ConnectionRecord.shown (record : ConnectionRecord) :
    String × String × Nat × Nat × Option Nat :=
  (record.fromEdge, record.toEdge, record.fromLane, record.toLane, record.signalIndex?)

/-- Lists and objects stand for no index, whatever is in them. -/
theorem tolerates_signal : Tolerates change .anything any indexOfValue? := by
  intro value edited edit
  refine Follows.ok fun _ => ?_
  cases edit with
  | dropWithin | addWithin | memberWithin | itemWithin => rfl

theorem tolerates_connection :
    Tolerates change connectionShape ConnectionRecord.decode ConnectionRecord.shown := by
  have scalar {β : Type} (decoder : Decoder β) : Tolerates change .scalar decoder id :=
    Json.tolerates_scalar change decoder id
  have signal : Tolerates change (.nullable .anything) (nullable any) (Option.map indexOfValue?) :=
    (tolerates_signal change).nullable
  refine Json.tolerates_record
    (.cons ((scalar text).required ?_ "from") <|
      .cons ((scalar text).required ?_ "to") <|
      .cons ((scalar count32).optional ?_ "fromLane") <|
      .cons ((scalar count32).optional ?_ "toLane") <|
      .cons (signal.optional ?tl "tl") .nil) _ _
  case tl =>
    intro read again entered entered' sameIndex same
    have index : read.bind indexOfValue? = again.bind indexOfValue? := by
      have joined := congrArg (Option.bind · id) sameIndex
      simpa only [Option.bind_map, Function.id_comp] using joined
    simp_all [ConnectionRecord.shown, ConnectionRecord.signalIndex?]
  all_goals
    intro read again entered entered' sameRead same
    simp_all [ConnectionRecord.shown, ConnectionRecord.signalIndex?]

/-! ### Intersections and outcomes -/

/-- What of an intersection gets into a store. -/
def IntersectionRecord.shown (record : IntersectionRecord) :=
  (record.nodes, record.edges, record.lights, record.connections.map ConnectionRecord.shown)

/-- What of an outcome gets into a store. -/
def OutputRecord.shown (output : OutputRecord) :=
  (output.vehicles, output.intersection.shown)

theorem tolerates_intersection :
    Tolerates change intersectionShape IntersectionRecord.decode IntersectionRecord.shown := by
  have nodes := (tolerates_node change).list
  have edges := (tolerates_edge change).list
  have lights := (tolerates_light change).list.nullable
  have connections := (tolerates_connection change).list
  refine Json.tolerates_record
    (.cons (nodes.optional ?_ "nodes") <|
      .cons (edges.optional ?_ "edges") <|
      .cons (lights.optional ?_ "trafficLights") <|
      .cons (connections.optional ?_ "connections") .nil) _ _
  all_goals
    intro read again entered entered' sameRead same
    simp_all [IntersectionRecord.shown]

/-- The fields of an outcome are those of its keys. -/
theorem enters_output :
    List.Forall₂ (Enters change OutputRecord.shown) outputKeys OutputRecord.fields := by
  have vehicles := (tolerates_vehicle change).list
  have intersection := tolerates_intersection change
  refine .cons (vehicles.optional ?_ "vehicles") <|
    .cons (intersection.optional ?_ "intersection") .nil
  all_goals
    intro read again entered entered' sameRead same
    simp_all [OutputRecord.shown]

theorem tolerates_output :
    Tolerates change outputShape OutputRecord.decode OutputRecord.shown :=
  Json.tolerates_record (enters_output change) _ _

/-- A bare outcome passes over reported figures. -/
theorem covers_document :
    Covers change OutputRecord.shown (documentKeys false) OutputRecord.fields := by
  have noOutput : ∀ field ∈ OutputRecord.fields, field.name ≠ outputKey.name := by
    simp [OutputRecord.fields, RecordField.optional, outputKey, Key.required]
  have noResults : ∀ field ∈ OutputRecord.fields, field.name ≠ resultsKey.name := by
    simp [OutputRecord.fields, RecordField.optional, resultsKey, Key.optional]
  exact ((Json.covers_of_forall₂ (enters_output change)).cons noResults).cons noOutput

end

/-! ## Documents -/

theorem resultsOf_eq_decodeResults {document figures : Value}
    (present : document.member? "results" = some figures) (notNull : figures ≠ .null) :
    resultsOf document = (decodeResults figures).map some := by
  rw [resultsOf, present]
  cases figures with
  | null => exact absurd rfl notNull
  | truth | number | text | list | object => rfl

theorem outcomeOf_eq_decode {outcome : Value} (notNull : outcome ≠ .null) :
    outcomeOf outcome = OutputRecord.decode outcome := by
  cases outcome with
  | null => exact absurd rfl notNull
  | truth | number | text | list | object => rfl

section

variable {change : Change} {document edited : Value}

/-- Reported figures are read after an edit. -/
theorem follows_resultsOf (edit : Edit change (shapeOf document) document edited) :
    Follows (change.Keeps id) (resultsOf document) (resultsOf edited) := by
  cases document with
  | object members =>
      have figures : KeyEdit change resultsKey ((Value.object members).member? "results")
          (edited.member? "results") := edit.keyEdit resultsKey rfl
      generalize before : (Value.object members).member? "results" = old at figures
      generalize after : edited.member? "results" = new at figures
      cases figures with
      | same =>
          refine Follows.of_eq (Change.Keeps.refl change id) ?_
          rw [resultsOf, resultsOf, before, after]
      | drop _ isDrop _ =>
          subst isDrop
          rw [resultsOf_eq_none after]
          intro read _
          refine ⟨none, rfl, fun added => ?_⟩
          cases added
      | below edit =>
          rw [resultsOf_eq_decodeResults before edit.ne_null.1,
            resultsOf_eq_decodeResults after edit.ne_null.2]
          exact (tolerates_results change _ _ edit).map fun _ _ keeps added =>
            congrArg some (keeps added)
  | list items =>
      cases edit with
      | entry => exact Follows.ok fun _ => rfl
  | null | truth | number | text => cases edit

/-- The outcome is read after an edit, be it wrapped or bare. -/
theorem follows_outputOf (edit : Edit change (shapeOf document) document edited) :
    Follows (change.Keeps OutputRecord.shown) (outputOf document) (outputOf edited) := by
  cases document with
  | object members =>
      have outcome : KeyEdit change outputKey ((Value.object members).member? "output")
          (edited.member? "output") := edit.keyEdit outputKey rfl
      generalize before : (Value.object members).member? "output" = old at outcome
      generalize after : edited.member? "output" = new at outcome
      cases outcome with
      | same =>
          cases old with
          | some wrapped =>
              rw [outputOf_of_wrapped before, outputOf_of_wrapped after]
              exact Follows.of_eq (Change.Keeps.refl change _) rfl
          | none =>
              rw [shapeOf_object, before] at edit
              rw [outputOf_of_bare before, outputOf_of_bare after,
                outcomeOf_eq_decode edit.ne_null.1, outcomeOf_eq_decode edit.ne_null.2]
              exact (covers_document change).follows_object _ _ edit
      | drop _ _ optional => cases optional
      | below edit =>
          rw [outputOf_of_wrapped before, outputOf_of_wrapped after,
            outcomeOf_eq_decode edit.ne_null.1, outcomeOf_eq_decode edit.ne_null.2]
          exact tolerates_output change _ _ edit
  | list items =>
      have followed := tolerates_output change _ _ edit
      cases edit with
      | entry =>
          rw [outputOf_of_bare rfl, outputOf_of_bare rfl]
          exact followed
  | null | truth | number | text => cases edit

/-- What of the records of a document gets into a store. -/
def shownRecords (records : OutputRecord × Option (Results Float)) :=
  (records.1.shown, records.2)

/-- The records of a document are read after an edit. -/
theorem follows_recordsOf (edit : Edit change (shapeOf document) document edited) :
    Follows (change.Keeps shownRecords) (recordsOf document) (recordsOf edited) := by
  refine (follows_resultsOf edit).bind fun results results' keepsResults => ?_
  refine (follows_outputOf edit).bind fun output output' keepsOutput => ?_
  exact Follows.ok fun added => Prod.ext (keepsOutput added) (keepsResults added)

/-- The records of a document are read after any number of edits. -/
theorem follows_recordsOf_edited (edits : Edited change document edited) :
    Follows (change.Keeps shownRecords) (recordsOf document) (recordsOf edited) := by
  induction edits with
  | refl => exact Follows.of_eq (Change.Keeps.refl change _) rfl
  | tail _ edit ih => exact ih.trans_keeps (follows_recordsOf edit)

end

/-! ## Stores -/

/-- Of the connections of an outcome, those with an index are told by what is shown. -/
theorem OutputRecord.connections_eq (output : OutputRecord) :
    output.connections =
      (output.intersection.connections.map ConnectionRecord.shown).filterMap
        fun (fromEdge, toEdge, fromLane, toLane, index?) =>
          index?.map fun index => ⟨fromEdge, toEdge, fromLane, toLane, index⟩ := by
  rw [List.filterMap_map]
  rfl

/-- The store is made of what is shown of the records. -/
theorem assemble_eq_of_shown_eq {output output' : OutputRecord}
    (same : output.shown = output'.shown) (results : Option (Results Float))
    (directions : Directions) (timing : CycleTiming Float) :
    assemble output results directions timing = assemble output' results directions timing := by
  obtain ⟨sameVehicles, sameIntersection⟩ := Prod.mk.inj same
  obtain ⟨sameNodes, rest⟩ := Prod.mk.inj sameIntersection
  obtain ⟨sameEdges, rest⟩ := Prod.mk.inj rest
  obtain ⟨sameLights, sameShown⟩ := Prod.mk.inj rest
  have sameConnections : output.connections = output'.connections := by
    rw [output.connections_eq, output'.connections_eq, sameShown]
  rw [assemble, assemble, OutputRecord.lights, OutputRecord.lights, sameConnections, sameLights,
    sameVehicles, sameNodes, sameEdges]

/-- A text has no complaint if the records of its document are read. -/
theorem storeOfText_ne_error_iff {text : String} {document : Value}
    (isDocument : Value.ofText? text = .ok document) (directions : Directions)
    (timing : CycleTiming Float) :
    (∀ error, storeOfText text directions timing ≠ .ok (.error error)) ↔
      ∃ records, recordsOf document = .ok records := by
  have readRecords : recordsOfText text = (recordsOf document).mapError .malformedShape := by
    rw [recordsOfText, isDocument]
  rw [storeOfText_eq, readRecords]
  cases recordsOf document with
  | error error => simp [Except.mapError]
  | ok records =>
      obtain ⟨output, results⟩ := records
      refine iff_of_true (fun error => ?_) ⟨_, rfl⟩
      dsimp only [Except.mapError]
      cases assemble output results directions timing <;> nofun

/-- The store of a text is assembled from the records of its document. -/
theorem storeOfText_eq_assemble {text : String} {document : Value} {output : OutputRecord}
    {results : Option (Results Float)} (isDocument : Value.ofText? text = .ok document)
    (isRead : recordsOf document = .ok (output, results)) (directions : Directions)
    (timing : CycleTiming Float) :
    storeOfText text directions timing =
      (assemble output results directions timing).map .ok := by
  rw [storeOfText_eq, recordsOfText, isDocument]
  dsimp only
  rw [isRead]
  rfl

/-- **Missing data degrades, and what means nothing is ignored.**  For every text that is read
without a complaint: with any number of keys deleted that need not be there, at whatever depth, it
still is; and with any number of keys added that mean nothing at their place, it comes to the very
same store. -/
theorem storeOfText_tolerates {text : String} {document : Value}
    (isDocument : Value.ofText? text = .ok document) (directions : Directions)
    (timing : CycleTiming Float)
    (accepted : ∀ error, storeOfText text directions timing ≠ .ok (.error error)) :
    (∀ text' edited, Value.ofText? text' = .ok edited → Edited .drop document edited →
      ∀ error, storeOfText text' directions timing ≠ .ok (.error error)) ∧
    ∀ text' edited, Value.ofText? text' = .ok edited → Edited .add document edited →
      storeOfText text' directions timing = storeOfText text directions timing := by
  obtain ⟨⟨output, results⟩, isRead⟩ :=
    (storeOfText_ne_error_iff isDocument directions timing).mp accepted
  constructor
  · intro text' edited isEdited edits
    obtain ⟨again, isReadAgain, -⟩ := follows_recordsOf_edited edits _ isRead
    exact (storeOfText_ne_error_iff isEdited directions timing).mpr ⟨again, isReadAgain⟩
  · intro text' edited isEdited edits
    obtain ⟨⟨output', results'⟩, isReadAgain, keeps⟩ := follows_recordsOf_edited edits _ isRead
    obtain ⟨sameOutput, sameResults⟩ := Prod.mk.inj (keeps rfl)
    dsimp only at sameOutput sameResults
    rw [storeOfText_eq_assemble isDocument isRead, storeOfText_eq_assemble isEdited isReadAgain,
      assemble_eq_of_shown_eq sameOutput, sameResults]

/-- The document of a text, read from its list of characters: a form that the kernel evaluates. -/
theorem ofText?_of_document {chars : List Char} {document : Value}
    (read : Json.document chars = .ok document) :
    Value.ofText? (.ofList chars) = .ok document := by
  rw [Value.ofText?, String.toList_ofList, read]
  rfl

set_option maxRecDepth 4000 in
/-- A wrapped vehicle, once without its sample and without the figures, and once with a color. -/
theorem storeOfText_tolerates_vehicle :
    let whole :=
      "\x7b\x22output\x22:\x7b\x22vehicles\x22:[\x7b\x22id\x22:\x22v\x22,\x22positions\x22:[
        \x7b\x22time\x22:1,\x22x\x22:2,\x22y\x22:3\x7d]\x7d]\x7d,\x22results\x22:\x7b\x7d\x7d"
    let trimmed :=
      "\x7b\x22output\x22:\x7b\x22vehicles\x22:[\x7b\x22id\x22:\x22v\x22\x7d]\x7d\x7d"
    let extended :=
      "\x7b\x22output\x22:\x7b\x22vehicles\x22:[
        \x7b\x22color\x22:0,\x22id\x22:\x22v\x22,\x22positions\x22:[
        \x7b\x22time\x22:1,\x22x\x22:2,\x22y\x22:3\x7d]\x7d]\x7d,\x22results\x22:\x7b\x7d\x7d"
    (∀ error, storeOfText whole .standard .standard ≠ .ok (.error error)) ∧
      (∀ error, storeOfText trimmed .standard .standard ≠ .ok (.error error)) ∧
      storeOfText extended .standard .standard = storeOfText whole .standard .standard := by
  intro whole trimmed extended
  let number (value : Int) : Value := .number (.integer value)
  let positions : Value :=
    .list [.object [("time", number 1), ("x", number 2), ("y", number 3)]]
  let document (vehicle : Keyed String Value) : Value :=
    .object [("output", .object [("vehicles", .list [.object vehicle])]), ("results", .object [])]
  let vehicle : Keyed String Value := [("id", .text "v"), ("positions", positions)]
  have isWhole : Value.ofText? whole = .ok (document vehicle) := ofText?_of_document rfl
  have isTrimmed : Value.ofText? trimmed =
      .ok (.object [("output", .object [("vehicles", .list [.object [("id", .text "v")]])])]) :=
    ofText?_of_document rfl
  have isExtended : Value.ofText? extended = .ok (document (("color", number 0) :: vehicle)) :=
    ofText?_of_document rfl
  have accepted : ∀ error, storeOfText whole .standard .standard ≠ .ok (.error error) :=
    (storeOfText_ne_error_iff isWhole .standard .standard).mpr ⟨_, rfl⟩
  have below {change : Change} {edited : Keyed String Value}
      (edit : Edit change vehicleShape (.object vehicle) (.object edited)) :
      Edit change (shapeOf (document vehicle)) (document vehicle) (document edited) :=
    @Edit.member _ _ outputKey _ _ [] [("results", .object [])] rfl <|
      @Edit.member _ _ (.optional "vehicles" (.list vehicleShape)) _ _ [] [] rfl <| .item [] [] edit
  have unsampled : Edit .drop vehicleShape (.object vehicle) (.object [("id", .text "v")]) :=
    @Edit.drop _ "positions" _ (by decide)
  have bare : Edit .drop (shapeOf (document [("id", .text "v")])) (document [("id", .text "v")])
      (.object [("output", .object [("vehicles", .list [.object [("id", .text "v")]])])]) :=
    @Edit.drop _ "results" _ (by decide)
  have colored : Edit .add vehicleShape (.object vehicle)
      (.object (("color", number 0) :: vehicle)) :=
    @Edit.add _ "color" _ (number 0) (by decide)
  obtain ⟨dropped, added⟩ := storeOfText_tolerates isWhole .standard .standard accepted
  exact ⟨accepted, dropped _ _ isTrimmed (.tail (.single (below unsampled)) bare),
    added _ _ isExtended (.single (below colored))⟩

end JunctionReplay.Payload
