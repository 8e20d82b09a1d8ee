import JunctionReplay.Proofs.Payload.SignalIndex
import JunctionReplay.Proofs.Payload.Texts

/-!
# Connections that are dropped

A connection without a usable signal index is dropped on the way into a store.  Nothing else of the
document depends on it: with any set of such connections taken out of the document, the store is the
very same, with the phases and the schedules of its lights, which are made from the connections that
are left.

The two documents are read side by side.  Taking connections out is an edit of one field of one
field of the outcome, so what is read of it differs in the records of the connections alone, and of
these the same ones are kept.

## Main Definitions

* `Payload.without` — a list without the items at some places.
* `Payload.withoutConnections` — a document without some of its connections.

## Main Statements

* `Payload.follows_recordsOf_withoutConnections` — the records of both documents.
* `Payload.storeOfText_without_unusable` — the stores of both documents, and what a store holds of
  its document.
-/

namespace JunctionReplay.Payload

open Json (Carries Edits FieldAt Follows Value carries_of_put edits_of_put)
open Json.Decoder (list)

/-! ## Documents without some connections -/

/-- A list without the items at the places that are left out. -/
def without {α : Type} (left : Nat → Bool) : List α → List α
  | [] => []
  | item :: rest =>
    let others := without (fun place => left (place + 1)) rest
    if left 0 then others else item :: others

/-- A list of a document without the items at the places that are left out. -/
def withoutItems (left : Nat → Bool) : Value → Value
  | .list items => .list (without left items)
  | other => other

/-- A document in which the value that describes the outcome is edited. -/
def mapOutcome (edit : Value → Value) (document : Value) : Value :=
  if (document.member? "output").isSome then document.mapMember "output" edit else edit document

/-- A document without the connections at the places that are left out. -/
def withoutConnections (left : Nat → Bool) : Value → Value :=
  mapOutcome (·.mapField 1 "intersection" (·.mapField 3 "connections" (withoutItems left)))

/-! ## What is kept of the records -/

/-- A connection is dropped if what it has in place of an index is unusable. -/
theorem toConnection?_eq_none_iff {connection : Value} {record : ConnectionRecord}
    (wellFormed : connection.WellFormed)
    (decodes : ConnectionRecord.decode connection = .ok record) :
    record.toConnection? = none ↔ IsUnusable (signalIn connection) := by
  rw [isUnusable_iff (wellFormed_signalIn wellFormed), ConnectionRecord.toConnection?,
    Option.map_eq_none_iff, signalIndex?_of_decode wellFormed decodes]

/-- Of both lists of records the same connections are kept. -/
def KeepSame (records others : List ConnectionRecord) : Prop :=
  records.filterMap ConnectionRecord.toConnection? =
    others.filterMap ConnectionRecord.toConnection?

/-- What of an intersection gets into a store. -/
def IntersectionRecord.kept (record : IntersectionRecord) :=
  (record.nodes, record.edges, record.lights,
    record.connections.filterMap ConnectionRecord.toConnection?)

/-- What of an outcome gets into a store. -/
def OutputRecord.kept (output : OutputRecord) :=
  (output.vehicles, output.intersection.kept)

/-- The store is made of what is kept of the records. -/
theorem assemble_eq_of_kept_eq {output output' : OutputRecord} (same : output.kept = output'.kept)
    (results : Option (Results Float)) (directions : Directions) (timing : CycleTiming Float) :
    assemble output results directions timing = assemble output' results directions timing := by
  obtain ⟨sameVehicles, sameIntersection⟩ := Prod.mk.inj same
  obtain ⟨sameNodes, rest⟩ := Prod.mk.inj sameIntersection
  obtain ⟨sameEdges, rest⟩ := Prod.mk.inj rest
  obtain ⟨sameLights, sameConnections⟩ := Prod.mk.inj rest
  rw [assemble, assemble, OutputRecord.lights, OutputRecord.lights, OutputRecord.connections,
    OutputRecord.connections, sameConnections, sameLights, sameVehicles, sameNodes, sameEdges]

/-! ## Reading both documents -/

section

variable {left : Nat → Bool}

/-- All that is read of the items that are left out is dropped. -/
def LeavesOutUnusable (left : Nat → Bool) (items : List Value) : Prop :=
  ∀ place item, items[place]? = some item → left place →
    ∀ record, ConnectionRecord.decode item = .ok record → record.toConnection? = none

theorem follows_mapM_without {items : List Value} (unusable : LeavesOutUnusable left items) :
    Follows KeepSame (items.mapM ConnectionRecord.decode)
      ((without left items).mapM ConnectionRecord.decode) := by
  induction items generalizing left with
  | nil => exact Follows.ok rfl
  | cons item rest ih =>
      have unusableRest : LeavesOutUnusable (fun place => left (place + 1)) rest :=
        fun place => unusable (place + 1)
      intro read isRead
      rw [List.mapM_cons] at isRead
      obtain ⟨record, decodes, isRead⟩ := Json.exists_of_bind_eq_ok isRead
      obtain ⟨records, restRead, isRead⟩ := Json.exists_of_bind_eq_ok isRead
      obtain rfl : record :: records = read := Except.ok.inj isRead
      obtain ⟨again, restAgain, same⟩ := ih unusableRest records restRead
      rw [without]
      cases isLeft : left 0 with
      | true =>
          refine ⟨again, restAgain, ?_⟩
          show (record :: records).filterMap _ = _
          rw [List.filterMap_cons_none (unusable 0 item rfl isLeft record decodes)]
          exact same
      | false =>
          refine ⟨record :: again, ?_, ?_⟩
          · rw [if_neg Bool.false_ne_true, List.mapM_cons, decodes, restAgain]
            rfl
          · show (record :: records).filterMap _ = (record :: again).filterMap _
            rw [List.filterMap_cons, List.filterMap_cons, show records.filterMap _ = _ from same]

theorem follows_list_withoutItems {value : Value}
    (unusable : LeavesOutUnusable left (itemsOf value)) :
    Follows KeepSame (list ConnectionRecord.decode value)
      (list ConnectionRecord.decode (withoutItems left value)) := by
  cases value with
  | list items => exact follows_mapM_without unusable
  | null | truth | number | text | object => exact nofun

/-- An intersection without some connections. -/
theorem follows_intersection {intersection : Value} (wellFormed : intersection.WellFormed)
    (unusable : LeavesOutUnusable left (itemsIn 3 "connections" (some intersection))) :
    Follows (fun record again => record.kept = again.kept) (IntersectionRecord.decode intersection)
      (IntersectionRecord.decode
        (intersection.mapField 3 "connections" (withoutItems left))) := by
  have connections : ∀ value, intersection.field? 3 "connections" = some value →
      Follows KeepSame (list ConnectionRecord.decode value)
        (list ConnectionRecord.decode (withoutItems left value)) := by
    intro value found
    rw [itemsIn, Option.bind_some, found] at unusable
    exact follows_list_withoutItems unusable
  refine Json.follows_record_mapField wellFormed ?_ rfl
  refine .later (carries_of_put _ (by decide) ?_) <| .later (carries_of_put _ (by decide) ?_) <|
    .later (carries_of_put _ (by decide) ?_) <| .here (edits_of_put _ connections ?_) <|
    List.forall_mem_nil _
  all_goals
    intros
    simp_all [IntersectionRecord.kept, KeepSame]

/-- An outcome whose intersection is edited. -/
theorem follows_outcome {outcome : Value} (wellFormed : outcome.WellFormed) {edit : Value → Value}
    (follows : ∀ intersection, outcome.field? 1 "intersection" = some intersection →
      Follows (fun record again => record.kept = again.kept)
        (IntersectionRecord.decode intersection) (IntersectionRecord.decode (edit intersection))) :
    Follows (fun output again => output.kept = again.kept) (outcomeOf outcome)
      (outcomeOf (outcome.mapField 1 "intersection" edit)) := by
  by_cases isNull : outcome = .null
  · subst isNull
    exact Follows.ok rfl
  · have stays : outcome.mapField 1 "intersection" edit ≠ .null := by
      cases outcome with
      | null => exact absurd rfl isNull
      | truth | number | text | list | object => exact nofun
    rw [outcomeOf_eq_decode isNull, outcomeOf_eq_decode stays]
    refine Json.follows_record_mapField wellFormed ?_ rfl
    refine .later (carries_of_put _ (by decide) ?_) <| .here (edits_of_put _ follows ?_) <|
      List.forall_mem_nil _
    all_goals
      intros
      simp_all [OutputRecord.kept]

end

/-! ## Documents -/

section

variable {document : Value} {edit : Value → Value}

/-- Beside an edited outcome the reported figures stay. -/
theorem resultsOf_mapOutcome
    (stays : (edit document).member? "results" = document.member? "results") :
    resultsOf (mapOutcome edit document) = resultsOf document := by
  have same : (mapOutcome edit document).member? "results" = document.member? "results" := by
    unfold mapOutcome
    split
    · exact Value.member?_mapMember_of_ne edit document (by decide)
    · exact stays
  rw [resultsOf, resultsOf, same]

/-- An edited outcome stays wrapped or bare. -/
theorem outputOf_mapOutcome
    (stays : (edit document).member? "output" = document.member? "output") :
    outputOf (mapOutcome edit document) = outcomeOf (edit (outcomeIn document)) := by
  unfold mapOutcome outcomeIn
  cases found : document.member? "output" with
  | some outcome =>
      have wraps : (document.mapMember "output" edit).member? "output" = some (edit outcome) := by
        rw [Value.member?_mapMember, found, Option.map_some]
      exact outputOf_of_wrapped wraps
  | none =>
      rw [found] at stays
      exact outputOf_of_bare stays

variable {left : Nat → Bool}

/-- **The records of both documents.**  They have the same figures, and the same is kept of them. -/
theorem follows_recordsOf_withoutConnections (wellFormed : document.WellFormed)
    (unusable : LeavesOutUnusable left (connectionsIn document)) :
    Follows (fun records again => records.1.kept = again.1.kept ∧ records.2 = again.2)
      (recordsOf document) (recordsOf (withoutConnections left document)) := by
  have figures : resultsOf (withoutConnections left document) = resultsOf document :=
    resultsOf_mapOutcome (Value.member?_mapField_of_ne _ document 1 (by decide))
  have outcome : Follows (fun output again => output.kept = again.kept) (outputOf document)
      (outputOf (withoutConnections left document)) := by
    rw [withoutConnections,
      outputOf_mapOutcome (Value.member?_mapField_of_ne _ document 1 (by decide))]
    have whole := wellFormed_outcomeIn wellFormed
    refine follows_outcome whole fun intersection found => ?_
    refine follows_intersection (whole.of_field? found) ?_
    rwa [connectionsIn, intersectionIn, found] at unusable
  rw [recordsOf, recordsOf, figures]
  have same : Follows Eq (resultsOf document) (resultsOf document) :=
    Follows.of_eq (fun _ => rfl) rfl
  refine same.bind ?_
  rintro results _ rfl
  exact outcome.bind fun output again kept => Follows.ok ⟨kept, rfl⟩

/-- What is read of unusable connections is dropped. -/
theorem leavesOutUnusable (wellFormed : document.WellFormed)
    (unusable : ∀ place item, (connectionsIn document)[place]? = some item → left place →
      IsUnusable (signalIn item)) :
    LeavesOutUnusable left (connectionsIn document) := by
  intro place item listed isLeft record decodes
  have whole := wellFormed_of_mem_connectionsIn wellFormed (List.mem_of_getElem? listed)
  exact (toConnection?_eq_none_iff whole decodes).mpr (unusable place item listed isLeft)

end

/-! ## Stores -/

/-- A part of a store is made from the record of an item, and has the texts of the item. -/
structure MadeFrom {β γ : Type} (decoder : Json.Decoder β) (makes : β → γ → Prop)
    (texts : List (TextField γ)) (item : Value) (part : γ) : Prop where
  exists_record : ∃ record, decoder item = .ok record ∧ makes record part
  keepsTexts : KeepsTexts texts item part

/-- A store is made from a document: its parts are those of the recorded ones, one by one and in
their order, save for the connections that are unusable. -/
structure IsMadeFrom (document : Value) (directions : Directions) (timing : CycleTiming Float)
    (store : Store Float) : Prop where
  vehicles : List.Forall₂ (MadeFrom VehicleRecord.decode (·.toTrajectory = ·) vehicleTexts)
    (vehiclesIn document) store.vehicles
  nodes : List.Forall₂ (MadeFrom NodeRecord.decode (·.toNode = ·) nodeTexts) (nodesIn document)
    store.nodes
  edges : List.Forall₂ (MadeFrom EdgeRecord.decode (·.toEdgeOfNetwork = ·) edgeTexts)
    (edgesIn document) store.edges
  /-- The lights are made with the connections that are left. -/
  lights : List.Forall₂
    (MadeFrom LightRecord.decode (·.toLight store.connections directions timing = .ok ·)
      lightTexts)
    (lightsIn document) store.lights
  connections : ∃ left : Nat → Bool,
    (∀ place item, (connectionsIn document)[place]? = some item →
      (left place ↔ IsUnusable (signalIn item))) ∧
    List.Forall₂ (MadeFrom ConnectionRecord.decode (·.toConnection? = some ·) connectionTexts)
      (without left (connectionsIn document)) store.connections

section

variable {β γ : Type} {decoder : Json.Decoder β} {makes : β → γ → Prop}
  {texts : List (TextField γ)} {items : List Value} {records : List β} {parts : List γ}

/-- Parts are made one by one from the records of items. -/
theorem forall₂_madeFrom (wellFormed : ∀ item ∈ items, item.WellFormed)
    (keepsTexts : ∀ {item : Value} {record part}, item.WellFormed → decoder item = .ok record →
      makes record part → KeepsTexts texts item part)
    (decodes : List.Forall₂ (fun item record => decoder item = .ok record) items records)
    (made : List.Forall₂ makes records parts) :
    List.Forall₂ (MadeFrom decoder makes texts) items parts := by
  induction decodes generalizing parts with
  | nil =>
      cases made
      exact .nil
  | cons decodesFirst _ ih =>
      obtain ⟨whole, wellFormedRest⟩ := List.forall_mem_cons.mp wellFormed
      cases made with
      | cons makesFirst makesRest =>
          exact .cons ⟨⟨_, decodesFirst, makesFirst⟩, keepsTexts whole decodesFirst makesFirst⟩
            (ih wellFormedRest makesRest)

theorem forall₂_map (make : β → γ) : List.Forall₂ (make · = ·) records (records.map make) :=
  List.forall₂_map_right_iff.mpr <| List.forall₂_same.mpr fun _ _ => rfl

end

/-- The connections of a store are those of the items that are not left out. -/
theorem forall₂_madeFrom_without {left : Nat → Bool} {items : List Value}
    {records : List ConnectionRecord} (wellFormed : ∀ item ∈ items, item.WellFormed)
    (leaves : ∀ place item, items[place]? = some item → (left place ↔ IsUnusable (signalIn item)))
    (decodes : List.Forall₂ (fun item record => ConnectionRecord.decode item = .ok record)
      items records) :
    List.Forall₂ (MadeFrom ConnectionRecord.decode (·.toConnection? = some ·) connectionTexts)
      (without left items) (records.filterMap ConnectionRecord.toConnection?) := by
  induction decodes generalizing left with
  | nil => exact .nil
  | @cons item record _ _ decodesFirst _ ih =>
      obtain ⟨whole, wellFormedRest⟩ := List.forall_mem_cons.mp wellFormed
      have rest := ih wellFormedRest fun place => leaves (place + 1)
      have isDropped : record.toConnection? = none ↔ left 0 :=
        (toConnection?_eq_none_iff whole decodesFirst).trans (leaves 0 item rfl).symm
      rw [without]
      cases made : record.toConnection? with
      | none =>
          rw [if_pos (isDropped.mp made), List.filterMap_cons_none made]
          exact rest
      | some lane =>
          have stays : ¬ left 0 := by
            rw [← isDropped, made]
            exact Option.some_ne_none lane
          have keeps := ConnectionRecord.keepsTexts whole decodesFirst made
          rw [if_neg stays, List.filterMap_cons_some made]
          exact .cons ⟨⟨record, decodesFirst, made⟩, keeps⟩ rest

section

variable {text : String} {document : Value} {output : OutputRecord}
  {results : Option (Results Float)} {directions : Directions} {timing : CycleTiming Float}
  {store : Store Float}

theorem exists_unusable (wellFormed : document.WellFormed) :
    ∃ left : Nat → Bool, ∀ place item, (connectionsIn document)[place]? = some item →
      (left place ↔ IsUnusable (signalIn item)) := by
  let index? (place : Nat) : Option Nat :=
    ((connectionsIn document)[place]?.bind signalIn).bind indexOfValue?
  refine ⟨fun place => (index? place).isNone, fun place item listed => ?_⟩
  have whole := wellFormed_of_mem_connectionsIn wellFormed (List.mem_of_getElem? listed)
  have index : index? place = (signalIn item).bind indexOfValue? := by
    show ((connectionsIn document)[place]?.bind signalIn).bind indexOfValue? = _
    rw [listed, Option.bind_some]
  show (index? place).isNone ↔ _
  rw [isUnusable_iff (wellFormed_signalIn whole), index, Option.isNone_iff_eq_none]

/-- What a store holds of the document of its text. -/
theorem isMadeFrom_of_loaded (isDocument : Value.ofText? text = .ok document)
    (isRead : recordsOf document = .ok (output, results))
    (loaded : storeOfText text directions timing = .ok (.ok store)) :
    IsMadeFrom document directions timing store := by
  have wellFormed := Json.wellFormed_of_ofText? isDocument
  have mirrors := mirrors_of_outputOf wellFormed (outputOf_of_recordsOf isRead)
  obtain ⟨lights, built, rfl⟩ := exists_lights_of_document isDocument isRead loaded
  obtain ⟨left, leaves⟩ := exists_unusable wellFormed
  have ofOutcome {place : Nat} {name : String} :
      ∀ item ∈ itemsIn place name (outcomeIn document), item.WellFormed := by
    intro item
    apply wellFormed_of_mem_itemsIn
    intro outcome isOutcome
    rw [← Option.mem_some_iff.mp isOutcome]
    exact wellFormed_outcomeIn wellFormed
  have ofIntersection {place : Nat} {name : String} :
      ∀ item ∈ itemsIn place name (intersectionIn document), item.WellFormed := by
    intro item
    apply wellFormed_of_mem_itemsIn
    exact wellFormed_intersectionIn wellFormed
  exact
    { vehicles := forall₂_madeFrom ofOutcome VehicleRecord.keepsTexts mirrors.vehicles
        (forall₂_map VehicleRecord.toTrajectory)
      nodes := forall₂_madeFrom ofIntersection NodeRecord.keepsTexts mirrors.nodes
        (forall₂_map NodeRecord.toNode)
      edges := forall₂_madeFrom ofIntersection EdgeRecord.keepsTexts mirrors.edges
        (forall₂_map EdgeRecord.toEdgeOfNetwork)
      lights := forall₂_madeFrom ofIntersection LightRecord.keepsTexts mirrors.lights
        (forall₂_of_mapM_eq_ok built)
      connections :=
        ⟨left, leaves, forall₂_madeFrom_without ofIntersection leaves mirrors.connections⟩ }

/-- The store of a document stays the same without some unusable connections. -/
theorem storeOf_withoutConnections {left : Nat → Bool} (wellFormed : document.WellFormed)
    (isRead : recordsOf document = .ok (output, results))
    (unusable : LeavesOutUnusable left (connectionsIn document)) :
    storeOf (withoutConnections left document) directions timing =
      storeOf document directions timing := by
  obtain ⟨⟨output', results'⟩, isReadAgain, kept, same⟩ :=
    follows_recordsOf_withoutConnections wellFormed unusable _ isRead
  dsimp only at kept same
  rw [storeOf, storeOf, isRead, isReadAgain]
  dsimp only
  rw [assemble_eq_of_kept_eq kept, same]

end

/-- **Unusable connections affect nothing but themselves.**  For every text whose records are read,
and for any set of its connections that have nothing usable in place of an index: without them the
document comes to the very same store, or to the same fault, and so does every text of it.  The
vehicles, the nodes, the edges and the lights of the store are those of the document, one by one and
in their order, and its connections are those that are not unusable.  All of them have the ids that
the document gives them, and name what the document says that they join. -/
theorem storeOfText_without_unusable {text : String} {document : Value} {output : OutputRecord}
    {results : Option (Results Float)} (isDocument : Value.ofText? text = .ok document)
    (isRead : recordsOf document = .ok (output, results)) (directions : Directions)
    (timing : CycleTiming Float) :
    (∀ left : Nat → Bool,
      (∀ place item, (connectionsIn document)[place]? = some item → left place →
        IsUnusable (signalIn item)) →
      storeOf (withoutConnections left document) directions timing =
          storeOf document directions timing ∧
        ∀ thinned, Value.ofText? thinned = .ok (withoutConnections left document) →
          storeOfText thinned directions timing = storeOfText text directions timing) ∧
    ∀ store, storeOfText text directions timing = .ok (.ok store) →
      IsMadeFrom document directions timing store := by
  have wellFormed := Json.wellFormed_of_ofText? isDocument
  constructor
  · intro left unusable
    have same : storeOf (withoutConnections left document) directions timing =
        storeOf document directions timing :=
      storeOf_withoutConnections wellFormed isRead (leavesOutUnusable wellFormed unusable)
    refine ⟨same, fun thinned isThinned => ?_⟩
    rw [storeOfText, storeOfText, isDocument, isThinned]
    dsimp only
    rw [same]
  · intro store loaded
    exact isMadeFrom_of_loaded isDocument isRead loaded

set_option maxRecDepth 4000 in
/-- A light that runs through the standard cycle, with three connections: one has null in place of
an index, one has an index, and one has a text that writes none. -/
theorem storeOfText_without_unusable_three_connections :
    let connection (origin : String) (signal : Value) : Value :=
      .object [("from", .text origin), ("tl", signal), ("to", .text "z")]
    let document : Value :=
      .object [("intersection", .object
        [("connections", .list [connection "a" .null, connection "b" (.number (.integer 1)),
            connection "c" (.text "two")]),
          ("trafficLights", .list [.object [("id", .text "x")]])])]
    let text :=
      "\x7b\x22intersection\x22:\x7b\x22trafficLights\x22:[\x7b\x22id\x22:\x22x\x22\x7d],
        \x22connections\x22:[
          \x7b\x22from\x22:\x22a\x22,\x22to\x22:\x22z\x22,\x22tl\x22:null\x7d,
          \x7b\x22from\x22:\x22b\x22,\x22to\x22:\x22z\x22,\x22tl\x22:1\x7d,
          \x7b\x22from\x22:\x22c\x22,\x22to\x22:\x22z\x22,\x22tl\x22:\x22two\x22\x7d]\x7d\x7d"
    let thinned :=
      "\x7b\x22intersection\x22:\x7b\x22trafficLights\x22:[\x7b\x22id\x22:\x22x\x22\x7d],
        \x22connections\x22:[
          \x7b\x22from\x22:\x22b\x22,\x22to\x22:\x22z\x22,\x22tl\x22:1\x7d]\x7d\x7d"
    let directions : Directions := [("b", .north)]
    let synthesized : List (Phase Float) :=
      [⟨30.0, "rG"⟩, ⟨5.0, "ry"⟩, ⟨30.0, "rr"⟩, ⟨5.0, "rr"⟩]
    let store : Store Float :=
      { nodes := []
        edges := []
        vehicles := []
        lights := [⟨"x", synthesized, .ofPhases synthesized⟩]
        connections := [⟨"b", "z", 0, 0, 1⟩]
        results := none }
    Value.ofText? text = .ok document ∧
      storeOfText text directions .standard = .ok (.ok store) ∧
      storeOfText thinned directions .standard = storeOfText text directions .standard ∧
      IsMadeFrom document directions .standard store := by
  intro connection document text thinned directions synthesized store
  let left (place : Nat) : Bool := place = 0 || place = 2
  have isDocument : Value.ofText? text = .ok document := ofText?_of_document rfl
  have isThinned : Value.ofText? thinned = .ok (withoutConnections left document) :=
    ofText?_of_document rfl
  have loaded : storeOfText text directions .standard = .ok (.ok store) :=
    storeOfText_of_document (by decide +kernel)
  have unusable : ∀ place item, (connectionsIn document)[place]? = some item → left place →
      IsUnusable (signalIn item) := by
    intro place item listed isLeft
    have places : place = 0 ∨ place = 2 := by simpa [left] using isLeft
    rcases places with rfl | rfl
    · cases listed
      exact .null
    · cases listed
      have writesNone : indexOfText? "two" = none := by decide
      exact .text (indexOfText?_eq_none_iff.mp writesNone)
  obtain ⟨same, made⟩ := storeOfText_without_unusable isDocument rfl directions .standard
  exact ⟨isDocument, loaded, (same left unusable).2 thinned isThinned, made store loaded⟩

end JunctionReplay.Payload
