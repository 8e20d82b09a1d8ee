import JunctionReplay.Proofs.Json.Fields
import JunctionReplay.Proofs.Payload.Forms
import JunctionReplay.Proofs.Payload.Stores

/-!
# Where a payload holds what

The lists of a payload stand at fixed places of its document, whether its outcome is wrapped or not
and whether its records are written as objects or as lists.  The records that are read are those of
the items of these lists, one by one and in their order; a list that is not there, and one in place
of which there is null, counts as empty.

## Main Definitions

* `Payload.vehiclesIn`, `Payload.nodesIn`, `Payload.edgesIn`, `Payload.lightsIn`,
  `Payload.connectionsIn` — the items of each list.
* `Payload.signalIn` — the value that a connection names its signal by.

## Main Statements

* `Payload.mirrors_of_outputOf` — the records of an outcome are those of the items of a document.
* `Payload.exists_lights_of_document` — what a store holds of the records of a document.
* `Payload.signalIndex?_of_decode` — the index of a connection is that of the value at its signal.
-/

namespace JunctionReplay.Payload

open Json (Value Decoder FieldAt Leaves ReadFrom RecordField Sets leaves_of_put sets_of_put)
open Json.Decoder (list nullable any)

/-! ## Places -/

/-- The items of a list; other values have none. -/
def itemsOf : Value → List Value
  | .list items => items
  | _ => []

/-- The items of the list that a field of a record holds. -/
def itemsIn (place : Nat) (name : String) (record : Option Value) : List Value :=
  ((record.bind (·.field? place name)).map itemsOf).getD []

section

variable (document : Value)

/-- The value that describes the outcome. -/
def outcomeIn : Value := (document.member? "output").getD document

/-- The recorded vehicles. -/
def vehiclesIn : List Value := itemsIn 0 "vehicles" (outcomeIn document)

/-- The value that describes the intersection. -/
def intersectionIn : Option Value := (outcomeIn document).field? 1 "intersection"

/-- The recorded nodes. -/
def nodesIn : List Value := itemsIn 0 "nodes" (intersectionIn document)

/-- The recorded edges. -/
def edgesIn : List Value := itemsIn 1 "edges" (intersectionIn document)

/-- The recorded lights. -/
def lightsIn : List Value := itemsIn 2 "trafficLights" (intersectionIn document)

/-- The recorded connections. -/
def connectionsIn : List Value := itemsIn 3 "connections" (intersectionIn document)

end

/-- The value that a connection names its signal by. -/
def signalIn (connection : Value) : Option Value := connection.field? 4 "tl"

/-! ## Fields among others -/

theorem vehicles_fieldAt :
    FieldAt (Sets "vehicles" (list VehicleRecord.decode) OutputRecord.vehicles)
      (Leaves "vehicles" OutputRecord.vehicles) 0 OutputRecord.fields :=
  .here (sets_of_put _ fun _ _ => rfl) <| List.forall_iff_forall_mem.mp <|
    leaves_of_put _ (by decide) fun _ _ => rfl

theorem intersection_fieldAt :
    FieldAt (Sets "intersection" IntersectionRecord.decode OutputRecord.intersection)
      (Leaves "intersection" OutputRecord.intersection) 1 OutputRecord.fields :=
  .later (leaves_of_put _ (by decide) fun _ _ => rfl) <|
    .here (sets_of_put _ fun _ _ => rfl) (List.forall_mem_nil _)

theorem nodes_fieldAt :
    FieldAt (Sets "nodes" (list NodeRecord.decode) IntersectionRecord.nodes)
      (Leaves "nodes" IntersectionRecord.nodes) 0 IntersectionRecord.fields :=
  .here (sets_of_put _ fun _ _ => rfl) <| List.forall_iff_forall_mem.mp
    ⟨leaves_of_put _ (by decide) fun _ _ => rfl, leaves_of_put _ (by decide) fun _ _ => rfl,
      leaves_of_put _ (by decide) fun _ _ => rfl⟩

theorem edges_fieldAt :
    FieldAt (Sets "edges" (list EdgeRecord.decode) IntersectionRecord.edges)
      (Leaves "edges" IntersectionRecord.edges) 1 IntersectionRecord.fields :=
  .later (leaves_of_put _ (by decide) fun _ _ => rfl) <|
    .here (sets_of_put _ fun _ _ => rfl) <| List.forall_iff_forall_mem.mp
      ⟨leaves_of_put _ (by decide) fun _ _ => rfl, leaves_of_put _ (by decide) fun _ _ => rfl⟩

theorem lights_fieldAt :
    FieldAt (Sets "trafficLights" (nullable (list LightRecord.decode)) IntersectionRecord.lights)
      (Leaves "trafficLights" IntersectionRecord.lights) 2 IntersectionRecord.fields :=
  .later (leaves_of_put _ (by decide) fun _ _ => rfl) <|
    .later (leaves_of_put _ (by decide) fun _ _ => rfl) <|
    .here (sets_of_put _ fun _ _ => rfl) <| List.forall_iff_forall_mem.mp <|
      leaves_of_put _ (by decide) fun _ _ => rfl

theorem connections_fieldAt :
    FieldAt (Sets "connections" (list ConnectionRecord.decode) IntersectionRecord.connections)
      (Leaves "connections" IntersectionRecord.connections) 3 IntersectionRecord.fields :=
  .later (leaves_of_put _ (by decide) fun _ _ => rfl) <|
    .later (leaves_of_put _ (by decide) fun _ _ => rfl) <|
    .later (leaves_of_put _ (by decide) fun _ _ => rfl) <|
    .here (sets_of_put _ fun _ _ => rfl) (List.forall_mem_nil _)

theorem signal_fieldAt :
    FieldAt (Sets "tl" (nullable any) ConnectionRecord.signal)
      (Leaves "tl" ConnectionRecord.signal) 4 ConnectionRecord.fields :=
  .later (leaves_of_put _ (by decide) fun _ _ => rfl) <|
    .later (leaves_of_put _ (by decide) fun _ _ => rfl) <|
    .later (leaves_of_put _ (by decide) fun _ _ => rfl) <|
    .later (leaves_of_put _ (by decide) fun _ _ => rfl) <|
    .here (sets_of_put _ fun _ _ => rfl) (List.forall_mem_nil _)

/-! ## Connections -/

section

variable {connection : Value} {record : ConnectionRecord}

theorem wellFormed_signalIn (wellFormed : connection.WellFormed) :
    ∀ value ∈ signalIn connection, value.WellFormed :=
  fun _ => wellFormed.of_field?

/-- A connection has the index that the value of its signal stands for. -/
theorem signalIndex?_of_decode (wellFormed : connection.WellFormed)
    (decodes : ConnectionRecord.decode connection = .ok record) :
    record.signalIndex? = (signalIn connection).bind indexOfValue? := by
  have signal : ReadFrom (nullable any) none (signalIn connection) record.signal :=
    Json.readFrom_of_record signal_fieldAt wellFormed decodes
  rw [ConnectionRecord.signalIndex?]
  generalize signalIn connection = named at signal
  cases named with
  | none =>
      have absent : record.signal = none := signal
      rw [absent]
  | some value =>
      have isRead : nullable any value = .ok record.signal := signal
      cases value with
      | null =>
          rw [← Except.ok.inj isRead]
          rfl
      | truth | number | text | list | object => rw [← Except.ok.inj isRead]

end

/-! ## Lists of records -/

section

variable {β : Type} {decoder : Decoder β} {place : Nat} {name : String} {record : Option Value}

/-- The items of a list are read one by one. -/
theorem forall₂_of_list {value : Value} {read : List β} (isRead : list decoder value = .ok read) :
    List.Forall₂ (fun item value => decoder item = .ok value) (itemsOf value) read := by
  cases value with
  | list items => exact forall₂_of_mapM_eq_ok isRead
  | null | truth | number | text | object => cases isRead

theorem forall₂_itemsIn {read : List β}
    (readFrom : ReadFrom (list decoder) [] (record.bind (·.field? place name)) read) :
    List.Forall₂ (fun item value => decoder item = .ok value) (itemsIn place name record) read := by
  rw [itemsIn]
  generalize record.bind (·.field? place name) = found at readFrom
  cases found with
  | none =>
      obtain rfl : read = [] := readFrom
      exact .nil
  | some value => exact forall₂_of_list readFrom

/-- In place of a list there may be null. -/
theorem forall₂_itemsIn_nullable {read : Option (List β)}
    (readFrom : ReadFrom (nullable (list decoder)) none (record.bind (·.field? place name)) read) :
    List.Forall₂ (fun item value => decoder item = .ok value) (itemsIn place name record)
      (read.getD []) := by
  rw [itemsIn]
  generalize record.bind (·.field? place name) = found at readFrom
  cases found with
  | none =>
      obtain rfl : read = none := readFrom
      exact .nil
  | some value =>
      cases value with
      | null =>
          obtain rfl : none = read := Except.ok.inj readFrom
          exact .nil
      | list items =>
          obtain ⟨values, isRead, rfl⟩ := Json.exists_of_map_eq_ok readFrom
          exact forall₂_of_list isRead
      | truth | number | text | object => cases readFrom

theorem wellFormed_of_mem_itemsIn (wellFormed : ∀ found ∈ record, found.WellFormed) {item : Value}
    (listed : item ∈ itemsIn place name record) : item.WellFormed := by
  rw [itemsIn] at listed
  cases found : record.bind (·.field? place name) with
  | none =>
      rw [found] at listed
      cases listed
  | some value =>
      rw [found] at listed
      obtain ⟨whole, isRecord, isField⟩ := Option.bind_eq_some_iff.mp found
      have inner := (wellFormed whole isRecord).of_field? isField
      cases value with
      | list items => exact inner.of_mem_list listed
      | null | truth | number | text | object => cases listed

end

/-! ## Outcomes -/

/-- The records of an outcome are those of the items of a document, in their order. -/
structure Mirrors (document : Value) (output : OutputRecord) : Prop where
  vehicles : List.Forall₂ (fun item record => VehicleRecord.decode item = .ok record)
    (vehiclesIn document) output.vehicles
  nodes : List.Forall₂ (fun item record => NodeRecord.decode item = .ok record)
    (nodesIn document) output.intersection.nodes
  edges : List.Forall₂ (fun item record => EdgeRecord.decode item = .ok record)
    (edgesIn document) output.intersection.edges
  lights : List.Forall₂ (fun item record => LightRecord.decode item = .ok record)
    (lightsIn document) output.lights
  connections : List.Forall₂ (fun item record => ConnectionRecord.decode item = .ok record)
    (connectionsIn document) output.intersection.connections

section

variable {document : Value} {output : OutputRecord}

/-- Parts of a document that was read are well-formed. -/
theorem wellFormed_outcomeIn (wellFormed : document.WellFormed) :
    (outcomeIn document).WellFormed := by
  unfold outcomeIn
  cases document with
  | object members =>
      cases found : (Value.object members).member? "output" with
      | none => exact wellFormed
      | some outcome => exact wellFormed.of_get? found
  | null | truth | number | text | list => exact wellFormed

theorem readFrom_of_outputOf (wellFormed : document.WellFormed)
    (isRead : outputOf document = .ok output) :
    ReadFrom (list VehicleRecord.decode) [] ((outcomeIn document).field? 0 "vehicles")
        output.vehicles ∧
      ReadFrom IntersectionRecord.decode .empty (intersectionIn document) output.intersection := by
  have whole := wellFormed_outcomeIn wellFormed
  have outcome : outcomeOf (outcomeIn document) = .ok output := isRead
  rw [intersectionIn]
  generalize outcomeIn document = value at whole outcome
  by_cases isNull : value = .null
  · subst isNull
    cases outcome
    exact ⟨rfl, rfl⟩
  · have decodes : OutputRecord.decode value = .ok output := by
      cases value with
      | null => exact absurd rfl isNull
      | truth | number | text | list | object => exact outcome
    exact ⟨Json.readFrom_of_record vehicles_fieldAt whole decodes,
      Json.readFrom_of_record intersection_fieldAt whole decodes⟩

theorem wellFormed_intersectionIn (wellFormed : document.WellFormed) :
    ∀ found ∈ intersectionIn document, found.WellFormed := fun _ found =>
  (wellFormed_outcomeIn wellFormed).of_field? found

theorem outputOf_of_recordsOf {results : Option (Results Float)}
    (isRead : recordsOf document = .ok (output, results)) : outputOf document = .ok output := by
  obtain ⟨_, -, isRead⟩ := Json.exists_of_bind_eq_ok isRead
  obtain ⟨_, isOutput, same⟩ := Json.exists_of_bind_eq_ok isRead
  cases same
  exact isOutput

/-- **The records of a document.**  They mirror its items. -/
theorem mirrors_of_outputOf (wellFormed : document.WellFormed)
    (isRead : outputOf document = .ok output) : Mirrors document output := by
  obtain ⟨vehicles, intersection⟩ := readFrom_of_outputOf wellFormed isRead
  have within := wellFormed_intersectionIn wellFormed
  exact
    { vehicles := forall₂_itemsIn vehicles
      nodes := forall₂_itemsIn (intersection.field nodes_fieldAt within)
      edges := forall₂_itemsIn (intersection.field edges_fieldAt within)
      lights := forall₂_itemsIn_nullable (intersection.field lights_fieldAt within)
      connections := forall₂_itemsIn (intersection.field connections_fieldAt within) }

/-- A store holds what was made of the records of its document. -/
theorem exists_lights_of_document {text : String} {results : Option (Results Float)}
    {directions : Directions} {timing : CycleTiming Float} {store : Store Float}
    (isDocument : Value.ofText? text = .ok document)
    (isRead : recordsOf document = .ok (output, results))
    (loaded : storeOfText text directions timing = .ok (.ok store)) :
    ∃ lights, output.lights.mapM (LightRecord.toLight output.connections directions timing) =
        .ok lights ∧
      store =
        { nodes := output.intersection.nodes.map NodeRecord.toNode
          edges := output.intersection.edges.map EdgeRecord.toEdgeOfNetwork
          vehicles := output.vehicles.map VehicleRecord.toTrajectory
          lights := lights
          connections := output.connections
          results := results } := by
  obtain ⟨output', results', isReadAgain, assembled⟩ := exists_assemble_of_storeOfText loaded
  have same : recordsOfText text = .ok (output, results) := by
    rw [recordsOfText, isDocument]
    dsimp only
    rw [isRead]
    rfl
  rw [same] at isReadAgain
  cases isReadAgain
  exact exists_lights_of_assemble assembled

theorem wellFormed_of_mem_connectionsIn (wellFormed : document.WellFormed) {connection : Value}
    (listed : connection ∈ connectionsIn document) : connection.WellFormed :=
  wellFormed_of_mem_itemsIn (wellFormed_intersectionIn wellFormed) listed

end

end JunctionReplay.Payload
