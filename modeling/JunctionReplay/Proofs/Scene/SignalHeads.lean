import Mathlib.Data.Nat.Sqrt
import JunctionReplay.Proofs.Keyed
import JunctionReplay.Proofs.Selection
import JunctionReplay.Proofs.Text.ByteOrder
import JunctionReplay.Scalar.Exact
import JunctionReplay.Scene.SignalHead

/-!
# Signal heads and roads

Roads are drawn for all edges of a store, and signal heads for the keys of a table of colors, each
of which stands for the first edge that has it as its id.  Ids may occur twice, and nodes may be
missing, so the two go different ways through a store.  They still agree: whatever has a head has a
road, and the head stands at the end of this road.

All of this holds for any numbers, machine numbers among them.

## Main Definitions

* `Store.Connects` — where in the scene an edge starts and ends.
* `Store.HasHead` — the edges that a head is drawn for.
* `SignalHead.IsPlaced` — where a head is, given the ends of its road.
* `SignalHead.StandsOn` — a head was placed from the ends of a strip.

## Main Statements

* `Store.endpoints?_eq_some_iff`, `SignalHead.ofEdgeId?_eq_some_iff` — what is drawn and where.
* `Store.forall₂_roadStrips` — one strip for each edge with both nodes.
* `Store.signalHeads_stand_on_roads` — heads and roads agree.
-/

namespace JunctionReplay

variable {α : Type} [Scalar α] {store : Store α} {bounds : SceneBounds α} {edge : RoadEdge α}
  {start finish : Point α}

/-! ## The ends of edges -/

namespace Store

/-- An edge leads from the place of one node to that of another, each of which is the first one with
its id. -/
structure Connects (store : Store α) (bounds : SceneBounds α) (edge : RoadEdge α)
    (start finish : Point α) : Prop where
  start_eq : ∃ node, IsFirst store.nodes (fun node => node.id = edge.fromNode) node ∧
    start = bounds.placeRoad node.position
  finish_eq : ∃ node, IsFirst store.nodes (fun node => node.id = edge.toNode) node ∧
    finish = bounds.placeRoad node.position

/-- Both nodes of an edge are there. -/
def HasNodes (store : Store α) (edge : RoadEdge α) : Prop :=
  (∃ node ∈ store.nodes, node.id = edge.fromNode) ∧ ∃ node ∈ store.nodes, node.id = edge.toNode

instance (store : Store α) (edge : RoadEdge α) : Decidable (store.HasNodes edge) :=
  inferInstanceAs (Decidable (_ ∧ _))

omit [Scalar α] in
theorem node?_eq_some_iff {id : String} {node : RoadNode α} :
    store.node? id = some node ↔ IsFirst store.nodes (fun node => node.id = id) node :=
  find?_eq_some_iff_isFirst

omit [Scalar α] in
theorem edge?_eq_some_iff {id : String} :
    store.edge? id = some edge ↔ IsFirst store.edges (fun edge => edge.id = id) edge :=
  find?_eq_some_iff_isFirst

theorem endpoints?_eq_some_iff :
    store.endpoints? bounds edge = some (start, finish) ↔
      store.Connects bounds edge start finish := by
  constructor
  · intro found
    unfold endpoints? at found
    split at found
    next first second isFirst isSecond =>
      cases found
      exact ⟨⟨first, node?_eq_some_iff.mp isFirst, rfl⟩, second, node?_eq_some_iff.mp isSecond, rfl⟩
    next => cases found
  · rintro ⟨⟨first, isFirst, rfl⟩, second, isSecond, rfl⟩
    rw [endpoints?, node?_eq_some_iff.mpr isFirst, node?_eq_some_iff.mpr isSecond]

/-- An edge has its place in the scene if both of its nodes are there. -/
theorem exists_connects_iff :
    (∃ start finish, store.Connects bounds edge start finish) ↔ store.HasNodes edge := by
  rw [HasNodes, ← exists_isFirst_iff, ← exists_isFirst_iff]
  constructor
  · rintro ⟨_, _, ⟨first, isFirst, -⟩, second, isSecond, -⟩
    exact ⟨⟨first, isFirst⟩, second, isSecond⟩
  · rintro ⟨⟨first, isFirst⟩, second, isSecond⟩
    exact ⟨_, _, ⟨first, isFirst, rfl⟩, second, isSecond, rfl⟩

end Store

variable [Planar α]

/-! ## Roads -/

namespace RoadStrip

variable {laneWidth : α} {strip : RoadStrip α}

/-- The strip of an edge leads from one of its ends to the other. -/
theorem ends_of_ofEdge? (drawn : ofEdge? store bounds laneWidth edge = some strip) :
    strip.edge = edge.id ∧ store.Connects bounds edge strip.start strip.finish := by
  obtain ⟨⟨start, finish⟩, ends, rfl⟩ := Option.map_eq_some_iff.mp drawn
  exact ⟨rfl, Store.endpoints?_eq_some_iff.mp ends⟩

theorem isSome_ofEdge?_iff :
    (ofEdge? store bounds laneWidth edge).isSome ↔ store.HasNodes edge := by
  rw [ofEdge?, Option.isSome_map, Option.isSome_iff_exists, Prod.exists]
  simp only [Store.endpoints?_eq_some_iff, Store.exists_connects_iff]

end RoadStrip

/-- In the order of the store, there is one strip for each edge that has both nodes. -/
theorem Store.forall₂_roadStrips (store : Store α) (bounds : SceneBounds α) (laneWidth : α) :
    List.Forall₂
      (fun edge strip => strip.edge = edge.id ∧
        store.Connects bounds edge strip.start strip.finish)
      (store.edges.filter fun edge => store.HasNodes edge)
      (store.roadStrips bounds laneWidth) := by
  have drawn := forall₂_filter_filterMap (RoadStrip.ofEdge? store bounds laneWidth) store.edges
  have sameEdges : (store.edges.filter fun edge => store.HasNodes edge) =
      store.edges.filter fun edge => (RoadStrip.ofEdge? store bounds laneWidth edge).isSome := by
    congr
    funext edge
    exact Bool.eq_iff_iff.mpr (decide_eq_true_iff.trans RoadStrip.isSome_ofEdge?_iff.symm)
  rw [sameEdges]
  exact drawn.imp fun edge strip => RoadStrip.ends_of_ofEdge?

/-! ## Heads -/

namespace Point

/-- The distance from one point to another. -/
def distanceTo (start finish : Point α) : α :=
  Planar.squareRoot
    ((finish.x - start.x) * (finish.x - start.x) + (finish.y - start.y) * (finish.y - start.y))

/-- The direction from one point to another, as a vector of length one. -/
def towards (start finish : Point α) : Point α :=
  ⟨(finish.x - start.x) / start.distanceTo finish, (finish.y - start.y) / start.distanceTo finish⟩

end Point

theorem unitVector?_seenFrom_eq_some_iff {direction : Point α} :
    unitVector? (finish.seenFrom start) = some direction ↔
      ¬ start.distanceTo finish ≤ Planar.negligible ∧ start.towards finish = direction := by
  rw [unitVector?, Option.ite_none_left_eq_some, Option.some_inj]
  rfl

namespace Store

/-- There is a head for an id: the first edge that has it leads from one point to another one that
is not next to it. -/
def HasHead (store : Store α) (bounds : SceneBounds α) (id : String) : Prop :=
  ∃ edge start finish, IsFirst store.edges (fun edge => edge.id = id) edge ∧
    store.Connects bounds edge start finish ∧ ¬ start.distanceTo finish ≤ Planar.negligible

end Store

namespace SignalHead

variable {id : String} {color : Color} {head : SignalHead α}

/-- A head was placed for a number of lanes that lead from one point to another, which is not next
to it.  It is set back by five from the far end and stands one beside the lanes, each of which is
taken to be three and a half wide, and its rotation is a quarter turn less their direction. -/
structure IsPlaced (head : SignalHead α) (laneCount : Nat) (start finish : Point α) : Prop where
  apart : ¬ start.distanceTo finish ≤ Planar.negligible
  x_eq : head.position.x = finish.x - (start.towards finish).x * 5.0 +
    -(start.towards finish).y * ((laneCount : α) * 3.5 / 2.0 + 1.0)
  y_eq : head.position.y = finish.y - (start.towards finish).y * 5.0 +
    (start.towards finish).x * ((laneCount : α) * 3.5 / 2.0 + 1.0)
  rotation_eq : head.rotation =
    -Planar.direction (start.towards finish).y (start.towards finish).x + Planar.quarterTurn

/-- A head was placed from the ends of a strip, which is that of the first edge with its id. -/
structure StandsOn (head : SignalHead α) (store : Store α) (bounds : SceneBounds α)
    (strip : RoadStrip α) : Prop where
  edge_eq : strip.edge = head.edge
  exists_edge : ∃ edge, IsFirst store.edges (fun edge => edge.id = head.edge) edge ∧
    store.Connects bounds edge strip.start strip.finish ∧
    head.IsPlaced edge.laneCount strip.start strip.finish

/-- The head that is drawn at the end of a road is the only one that is placed there. -/
theorem atEnd_eq_iff (apart : ¬ start.distanceTo finish ≤ Planar.negligible) :
    atEnd edge color finish (start.towards finish) = head ↔
      head.edge = edge.id ∧ head.color = color ∧ head.IsPlaced edge.laneCount start finish := by
  constructor
  · rintro rfl
    exact ⟨rfl, rfl, apart, rfl, rfl, rfl⟩
  · obtain ⟨id, ⟨x, y⟩, rotation, shown⟩ := head
    rintro ⟨rfl, rfl, -, rfl, rfl, rfl⟩
    rfl

theorem ofEdgeId?_eq_some_iff :
    ofEdgeId? store bounds id color = some head ↔ head.edge = id ∧ head.color = color ∧
      ∃ edge start finish, IsFirst store.edges (fun edge => edge.id = id) edge ∧
        store.Connects bounds edge start finish ∧ head.IsPlaced edge.laneCount start finish := by
  simp only [ofEdgeId?, Option.bind_eq_bind, Option.bind_eq_some_iff, Option.some_inj, Prod.exists,
    Store.edge?_eq_some_iff, Store.endpoints?_eq_some_iff, unitVector?_seenFrom_eq_some_iff]
  constructor
  · rintro ⟨edge, isFirst, start, finish, connects, _, ⟨apart, rfl⟩, drawn⟩
    obtain ⟨ofEdge, colored, placed⟩ := (atEnd_eq_iff apart).mp drawn
    exact ⟨ofEdge.trans isFirst.isWanted, colored, edge, start, finish, isFirst, connects, placed⟩
  · rintro ⟨rfl, rfl, edge, start, finish, isFirst, connects, placed⟩
    exact ⟨edge, isFirst, start, finish, connects, _, ⟨placed.apart, rfl⟩,
      (atEnd_eq_iff placed.apart).mpr ⟨isFirst.isWanted.symm, rfl, placed⟩⟩

theorem exists_ofEdgeId?_iff :
    (∃ head, ofEdgeId? store bounds id color = some head) ↔ store.HasHead bounds id := by
  constructor
  · rintro ⟨head, drawn⟩
    obtain ⟨-, -, edge, start, finish, isFirst, connects, placed⟩ :=
      ofEdgeId?_eq_some_iff.mp drawn
    exact ⟨edge, start, finish, isFirst, connects, placed.apart⟩
  · rintro ⟨edge, start, finish, isFirst, connects, apart⟩
    have placed : (atEnd edge color finish (start.towards finish)).IsPlaced edge.laneCount start
        finish := ((atEnd_eq_iff apart).mp rfl).2.2
    exact ⟨_, ofEdgeId?_eq_some_iff.mpr
      ⟨isFirst.isWanted, rfl, edge, start, finish, isFirst, connects, placed⟩⟩

/-- A head stands on a strip that is drawn. -/
theorem exists_standsOn (drawn : ofEdgeId? store bounds id color = some head) (laneWidth : α) :
    ∃ strip ∈ store.roadStrips bounds laneWidth, head.StandsOn store bounds strip := by
  obtain ⟨rfl, -, edge, start, finish, isFirst, connects, placed⟩ :=
    ofEdgeId?_eq_some_iff.mp drawn
  obtain ⟨before, after, split, -⟩ := isFirst.exists_split
  have ofStore : edge ∈ store.edges := by simp [split]
  have ends := Store.endpoints?_eq_some_iff.mpr connects
  refine ⟨.between edge laneWidth start finish, ?_, isFirst.isWanted, edge, isFirst, connects,
    placed⟩
  exact List.mem_filterMap.mpr ⟨edge, ofStore, Option.map_eq_some_iff.mpr ⟨_, ends, rfl⟩⟩

end SignalHead

namespace Store

variable {colors : Keyed String Color}

theorem mem_signalHeads_iff {head : SignalHead α} :
    head ∈ store.signalHeads bounds colors ↔
      ∃ id color, (id, color) ∈ colors ∧
        SignalHead.ofEdgeId? store bounds id color = some head := by
  rw [signalHeads, List.mem_filterMap, Prod.exists]

/-- **Heads and roads.**  Heads are in the order of the bytes of their ids, so that there is one at
most for each of them.  There is a head with the color of an id exactly if the first edge with this
id has both of its nodes and is not too short, and it was placed from the ends of a strip that is
drawn for this id: set back from the one end along the strip, and beside it by the width of its
lanes.  Of the strips there is one for each edge that has both of its nodes. -/
theorem signalHeads_stand_on_roads (store : Store α) (bounds : SceneBounds α) (laneWidth : α)
    (sorted : colors.Sorted) :
    let heads := store.signalHeads bounds colors
    let strips := store.roadStrips bounds laneWidth
    (heads.Pairwise fun earlier later => Text.bytes earlier.edge < Text.bytes later.edge) ∧
      (∀ id color, (∃ head ∈ heads, head.edge = id ∧ head.color = color) ↔
        (id, color) ∈ colors ∧ store.HasHead bounds id) ∧
      (∀ head ∈ heads, ∃ strip ∈ strips, head.StandsOn store bounds strip) ∧
      List.Forall₂
        (fun edge strip => strip.edge = edge.id ∧
          store.Connects bounds edge strip.start strip.finish)
        (store.edges.filter fun edge => store.HasNodes edge) strips := by
  intro heads strips
  refine ⟨?_, fun id color => ⟨?_, ?_⟩, ?_, store.forall₂_roadStrips bounds laneWidth⟩
  · refine List.Pairwise.filterMap _ (fun entry later below head drawn other drawnLater => ?_)
      sorted
    rw [(SignalHead.ofEdgeId?_eq_some_iff.mp drawn).1,
      (SignalHead.ofEdgeId?_eq_some_iff.mp drawnLater).1]
    exact (Text.bytes_lt_iff entry.1 later.1).mpr below
  · rintro ⟨head, member, rfl, rfl⟩
    obtain ⟨id, color, isColored, drawn⟩ := mem_signalHeads_iff.mp member
    obtain ⟨rfl, rfl, -⟩ := SignalHead.ofEdgeId?_eq_some_iff.mp drawn
    exact ⟨isColored, SignalHead.exists_ofEdgeId?_iff.mp ⟨head, drawn⟩⟩
  · rintro ⟨isColored, hasHead⟩
    obtain ⟨head, drawn⟩ := SignalHead.exists_ofEdgeId?_iff.mpr hasHead
    obtain ⟨ofId, colored, -⟩ := SignalHead.ofEdgeId?_eq_some_iff.mp drawn
    exact ⟨head, mem_signalHeads_iff.mpr ⟨id, color, isColored, drawn⟩, ofId, colored⟩
  · intro head member
    obtain ⟨id, color, -, drawn⟩ := mem_signalHeads_iff.mp member
    exact SignalHead.exists_standsOn drawn laneWidth

/-- Two edges of one id that can be drawn, an edge from a node to itself, and two edges of one id of
which only the second one can be drawn. -/
theorem signalHeads_stand_on_roads_repeated_ids :
    let _ : Planar Rat :=
      ⟨fun a => (a.floor.toNat.sqrt : Nat), fun y x => y / x, 157 / 100, 1 / 4503599627370496⟩
    let store : Store Rat :=
      ⟨[⟨"west", 0, 0, ""⟩, ⟨"east", 40, 0, ""⟩, ⟨"west", 40, 0, ""⟩],
        [⟨"main", "west", "east", 50, 2⟩, ⟨"main", "east", "west", 50, 1⟩,
          ⟨"loop", "west", "west", 50, 1⟩, ⟨"side", "west", "north", 50, 1⟩,
          ⟨"side", "west", "east", 50, 1⟩], [], [], [], none⟩
    let bounds := SceneBounds.ofStore store
    let colors : Keyed String Color :=
      .ofPairs [("side", .green), ("main", .red), ("loop", .green), ("lost", .yellow)]
    colors.Sorted ∧
      (store.signalHeads bounds colors).map SignalHead.edge = ["main"] ∧
      (store.signalHeads bounds colors).map SignalHead.position = [⟨15, 9 / 2⟩] ∧
      (store.roadStrips bounds 10).map RoadStrip.edge = ["main", "main", "loop", "side"] ∧
      store.HasHead bounds "main" ∧ ¬ store.HasHead bounds "side" := by
  intro _ store bounds colors
  have sorted : colors.Sorted := Keyed.sorted_ofPairs _
  have ids : (store.signalHeads bounds colors).map SignalHead.edge = ["main"] := by decide +kernel
  have isColored : ("side", Color.green) ∈ colors := by decide +kernel
  obtain ⟨-, hasHead, -, -⟩ := signalHeads_stand_on_roads store bounds 10 sorted
  have onMain : store.HasHead bounds "main" := by
    have listed : "main" ∈ (store.signalHeads bounds colors).map SignalHead.edge := by simp [ids]
    obtain ⟨head, member, isMain⟩ := List.mem_map.mp listed
    exact ((hasHead "main" head.color).mp ⟨head, member, isMain, rfl⟩).2
  have notOnSide : ¬ store.HasHead bounds "side" := by
    intro onSide
    obtain ⟨head, member, isSide, -⟩ := (hasHead "side" .green).mpr ⟨isColored, onSide⟩
    have listed : head.edge ∈ ["main"] := ids ▸ List.mem_map_of_mem member
    rw [isSide] at listed
    exact absurd listed (by decide)
  exact ⟨sorted, ids, by decide +kernel, by decide +kernel, onMain, notOnSide⟩

end Store

end JunctionReplay
