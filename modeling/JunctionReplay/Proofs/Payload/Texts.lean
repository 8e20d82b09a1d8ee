import JunctionReplay.Proofs.Payload.Places

/-!
# Texts that a store keeps

The parts of a store are found by their ids, and they name each other by them.  These texts get into
the store as they stand in the document: an id is never made up, left out or put in another place,
since a field that holds one has to be there and may hold nothing but a text.

## Main Definitions

* `Payload.TextField` — a field with a text, and which text of a part it becomes.
* `Payload.KeepsTexts` — a part of a store has the texts of an item.

## Main Statements

* `Payload.text_of_record` — the text that a record holds is that of its field.
* `Payload.VehicleRecord.keepsTexts`, `Payload.NodeRecord.keepsTexts`,
  `Payload.EdgeRecord.keepsTexts`, `Payload.LightRecord.keepsTexts`,
  `Payload.ConnectionRecord.keepsTexts` — so do the parts that are made of the records.
-/

namespace JunctionReplay.Payload

open Json (Value Decoder FieldAt Leaves Requires leaves_of_put requires_of_put)
open Json.Decoder (text)

/-! ## Fields with texts -/

/-- A field of a record that holds a text, and the text of a part of a store that it becomes. -/
structure TextField (γ : Type) where
  place : Nat
  name : String
  get : γ → String

/-- A part of a store has the texts that an item holds for some fields. -/
def KeepsTexts {γ : Type} (fields : List (TextField γ)) (item : Value) (part : γ) : Prop :=
  ∀ field ∈ fields, item.field? field.place field.name = some (.text (field.get part))

/-- The texts of vehicles. -/
def vehicleTexts : List (TextField (Trajectory Float)) := [⟨0, "id", Trajectory.id⟩]

/-- The texts of nodes. -/
def nodeTexts : List (TextField (RoadNode Float)) := [⟨0, "id", RoadNode.id⟩]

/-- The texts of edges, which name the nodes at their ends. -/
def edgeTexts : List (TextField (RoadEdge Float)) :=
  [⟨0, "id", RoadEdge.id⟩, ⟨1, "from", RoadEdge.fromNode⟩, ⟨2, "to", RoadEdge.toNode⟩]

/-- The texts of lights. -/
def lightTexts : List (TextField (TrafficLight Float)) := [⟨0, "id", TrafficLight.id⟩]

/-- The texts of connections, which name the edges that they join. -/
def connectionTexts : List (TextField LaneConnection) :=
  [⟨0, "from", LaneConnection.fromEdge⟩, ⟨1, "to", LaneConnection.toEdge⟩]

/-! ## Records -/

theorem eq_text_of_text_eq_ok {value : Value} {read : String} (isRead : text value = .ok read) :
    value = .text read := by
  cases value with
  | text written =>
      cases isRead
      rfl
  | null | truth | number | list | object => cases isRead

/-- The text that a record holds is that of its field. -/
theorem text_of_record {δ : Type} {name kind : String} {place : Nat}
    {fields : List (Json.RecordField δ)} {get : δ → String} {default record : δ} {item : Value}
    (fieldAt : FieldAt (Requires name text get) (Leaves name get) place fields)
    (wellFormed : item.WellFormed) (decodes : Json.record kind fields default item = .ok record) :
    item.field? place name = some (.text (get record)) := by
  obtain ⟨value, found, isRead⟩ := Json.exists_field?_of_record fieldAt wellFormed decodes
  rw [found, eq_text_of_text_eq_ok isRead]

section

variable {item : Value}

theorem VehicleRecord.keepsTexts {record : VehicleRecord} {vehicle : Trajectory Float}
    (wellFormed : item.WellFormed) (decodes : VehicleRecord.decode item = .ok record)
    (made : record.toTrajectory = vehicle) : KeepsTexts vehicleTexts item vehicle := by
  have id_fieldAt : FieldAt (Requires "id" text VehicleRecord.id) (Leaves "id" VehicleRecord.id) 0
      VehicleRecord.fields :=
    .here (requires_of_put fun _ _ => rfl) <| List.forall_iff_forall_mem.mp <|
      leaves_of_put _ (by decide) fun _ _ => rfl
  have id := text_of_record id_fieldAt wellFormed decodes
  subst made
  exact List.forall_iff_forall_mem.mp id

theorem NodeRecord.keepsTexts {record : NodeRecord} {node : RoadNode Float}
    (wellFormed : item.WellFormed) (decodes : NodeRecord.decode item = .ok record)
    (made : record.toNode = node) : KeepsTexts nodeTexts item node := by
  have id_fieldAt : FieldAt (Requires "id" text NodeRecord.id) (Leaves "id" NodeRecord.id) 0
      NodeRecord.fields :=
    .here (requires_of_put fun _ _ => rfl) <| List.forall_iff_forall_mem.mp
      ⟨leaves_of_put _ (by decide) fun _ _ => rfl, leaves_of_put _ (by decide) fun _ _ => rfl,
        leaves_of_put _ (by decide) fun _ _ => rfl⟩
  have id := text_of_record id_fieldAt wellFormed decodes
  subst made
  exact List.forall_iff_forall_mem.mp id

theorem EdgeRecord.keepsTexts {record : EdgeRecord} {edge : RoadEdge Float}
    (wellFormed : item.WellFormed) (decodes : EdgeRecord.decode item = .ok record)
    (made : record.toEdgeOfNetwork = edge) : KeepsTexts edgeTexts item edge := by
  have id_fieldAt : FieldAt (Requires "id" text EdgeRecord.id) (Leaves "id" EdgeRecord.id) 0
      EdgeRecord.fields :=
    .here (requires_of_put fun _ _ => rfl) <| List.forall_iff_forall_mem.mp
      ⟨leaves_of_put _ (by decide) fun _ _ => rfl, leaves_of_put _ (by decide) fun _ _ => rfl,
        leaves_of_put _ (by decide) fun _ _ => rfl, leaves_of_put _ (by decide) fun _ _ => rfl⟩
  have from_fieldAt : FieldAt (Requires "from" text EdgeRecord.fromNode)
      (Leaves "from" EdgeRecord.fromNode) 1 EdgeRecord.fields :=
    .later (leaves_of_put _ (by decide) fun _ _ => rfl) <|
      .here (requires_of_put fun _ _ => rfl) <| List.forall_iff_forall_mem.mp
        ⟨leaves_of_put _ (by decide) fun _ _ => rfl, leaves_of_put _ (by decide) fun _ _ => rfl,
          leaves_of_put _ (by decide) fun _ _ => rfl⟩
  have to_fieldAt : FieldAt (Requires "to" text EdgeRecord.toNode)
      (Leaves "to" EdgeRecord.toNode) 2 EdgeRecord.fields :=
    .later (leaves_of_put _ (by decide) fun _ _ => rfl) <|
      .later (leaves_of_put _ (by decide) fun _ _ => rfl) <|
      .here (requires_of_put fun _ _ => rfl) <| List.forall_iff_forall_mem.mp
        ⟨leaves_of_put _ (by decide) fun _ _ => rfl, leaves_of_put _ (by decide) fun _ _ => rfl⟩
  have id := text_of_record id_fieldAt wellFormed decodes
  have start := text_of_record from_fieldAt wellFormed decodes
  have finish := text_of_record to_fieldAt wellFormed decodes
  subst made
  exact List.forall_iff_forall_mem.mp ⟨id, start, finish⟩

theorem LightRecord.keepsTexts {record : LightRecord} {connections : List LaneConnection}
    {directions : Directions} {timing : CycleTiming Float} {light : TrafficLight Float}
    (wellFormed : item.WellFormed) (decodes : LightRecord.decode item = .ok record)
    (built : record.toLight connections directions timing = .ok light) :
    KeepsTexts lightTexts item light := by
  have id_fieldAt : FieldAt (Requires "id" text LightRecord.id) (Leaves "id" LightRecord.id) 0
      LightRecord.fields :=
    .here (requires_of_put fun _ _ => rfl) <| List.forall_iff_forall_mem.mp <|
      leaves_of_put _ (by decide) fun _ _ => rfl
  have id := text_of_record id_fieldAt wellFormed decodes
  obtain ⟨phases, -, rfl⟩ := LightRecord.exists_shownPhases_of_toLight built
  exact List.forall_iff_forall_mem.mp id

theorem ConnectionRecord.keepsTexts {record : ConnectionRecord} {lane : LaneConnection}
    (wellFormed : item.WellFormed) (decodes : ConnectionRecord.decode item = .ok record)
    (made : record.toConnection? = some lane) : KeepsTexts connectionTexts item lane := by
  have from_fieldAt : FieldAt (Requires "from" text ConnectionRecord.fromEdge)
      (Leaves "from" ConnectionRecord.fromEdge) 0 ConnectionRecord.fields :=
    .here (requires_of_put fun _ _ => rfl) <| List.forall_iff_forall_mem.mp
      ⟨leaves_of_put _ (by decide) fun _ _ => rfl, leaves_of_put _ (by decide) fun _ _ => rfl,
        leaves_of_put _ (by decide) fun _ _ => rfl, leaves_of_put _ (by decide) fun _ _ => rfl⟩
  have to_fieldAt : FieldAt (Requires "to" text ConnectionRecord.toEdge)
      (Leaves "to" ConnectionRecord.toEdge) 1 ConnectionRecord.fields :=
    .later (leaves_of_put _ (by decide) fun _ _ => rfl) <|
      .here (requires_of_put fun _ _ => rfl) <| List.forall_iff_forall_mem.mp
        ⟨leaves_of_put _ (by decide) fun _ _ => rfl, leaves_of_put _ (by decide) fun _ _ => rfl,
          leaves_of_put _ (by decide) fun _ _ => rfl⟩
  have start := text_of_record from_fieldAt wellFormed decodes
  have finish := text_of_record to_fieldAt wellFormed decodes
  obtain ⟨index, -, rfl⟩ := Option.map_eq_some_iff.mp made
  exact List.forall_iff_forall_mem.mp ⟨start, finish⟩

end

end JunctionReplay.Payload
