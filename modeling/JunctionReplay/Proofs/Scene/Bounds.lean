import Mathlib.Algebra.Order.Field.Rat
import Mathlib.Order.Bounds.Image
import Mathlib.Tactic.GCongr
import Mathlib.Tactic.Ring
import JunctionReplay.Proofs.Session.Poses
import JunctionReplay.Scene.Bounds

/-!
# The scene around the origin

A vehicle is drawn between two of its samples, and all samples lie in the rectangle that they span.
A rectangle holds with two points all that lies between them, so that vehicles stay in the rectangle
however they go; and seen from its middle the rectangle lies evenly around the origin.

All of this is said in exact arithmetic: on machine numbers the interpolation rounds, and a vehicle
may be drawn beside its samples by a last digit.

## Main Definitions

* `Extent.IsSpannedBy` — a rectangle is the smallest one that holds some points.
* `Extent.aroundOrigin` — the rectangle of the same size with the origin in its middle.
* `Store.samplePlaces` — the places of all samples of all vehicles.
* `Trajectory.KeepsToSamples` — where a vehicle is seen between its samples and at them.

## Main Statements

* `Extent.ofPoints?_eq_some_iff` — the rectangle that is computed is the one that points span.
* `Extent.Holds.between` — a rectangle holds what lies between two of its points.
* `Extent.IsSpannedBy.seenFrom` — moved points span the moved rectangle.
* `Trajectory.IsIncreasing.keepsToSamples` — a vehicle stays between the samples around the time.
* `Store.scene_around_origin` — all that is drawn of vehicles lies around the origin.
-/

namespace JunctionReplay

/-! ## Numbers -/

namespace Scalar

variable {a b low high share : Rat} {values : Set Rat}

/-- The smaller of the least of some numbers and a further number is the least of all. -/
theorem isLeast_smaller (least : IsLeast values a) (b : Rat) :
    IsLeast (insert b values) (smaller a b) := by
  rw [smaller, if_pos (show IsNumber b from Rat.le_refl), ← min_def_lt, min_comm]
  exact least.insert b

/-- The larger of the greatest of some numbers and a further number is the greatest of all. -/
theorem isGreatest_larger (greatest : IsGreatest values a) (b : Rat) :
    IsGreatest (insert b values) (larger a b) := by
  rw [larger, if_pos (show IsNumber b from Rat.le_refl), ← max_def_lt]
  exact greatest.insert b

/-- What lies between two numbers is not below a number that neither of them is below. -/
theorem le_lerp (lowerA : low ≤ a) (lowerB : low ≤ b) (nonneg : 0 ≤ share) (leOne : share ≤ 1) :
    low ≤ lerp a b share := by
  have rest : 0 ≤ 1 - share := sub_nonneg.mpr leOne
  calc low = low * (1 - share) + low * share := by ring
    _ ≤ a * (1 - share) + b * share := by gcongr

/-- What lies between two numbers is not above a number that neither of them is above. -/
theorem lerp_le (upperA : a ≤ high) (upperB : b ≤ high) (nonneg : 0 ≤ share) (leOne : share ≤ 1) :
    lerp a b share ≤ high := by
  have rest : 0 ≤ 1 - share := sub_nonneg.mpr leOne
  calc a * (1 - share) + b * share ≤ high * (1 - share) + high * share := by gcongr
    _ = high := by ring

theorem lerp_zero (a b : Rat) : lerp a b 0 = a := by
  change a * (1 - 0) + b * 0 = a
  ring

end Scalar

/-! ## Rectangles -/

namespace Extent

variable {extent other : Extent Rat} {points : Set (Point Rat)} {point first second : Point Rat}

/-- A rectangle holds a point, which may be on its sides. -/
structure Holds (extent : Extent Rat) (point : Point Rat) : Prop where
  low_x_le : extent.low.x ≤ point.x
  le_high_x : point.x ≤ extent.high.x
  low_y_le : extent.low.y ≤ point.y
  le_high_y : point.y ≤ extent.high.y

/-- A rectangle is the smallest one that holds all points: none of them is beyond a side, and on
each side there is one of them. -/
structure IsSpannedBy (extent : Extent Rat) (points : Set (Point Rat)) : Prop where
  low_x : IsLeast (Point.x '' points) extent.low.x
  high_x : IsGreatest (Point.x '' points) extent.high.x
  low_y : IsLeast (Point.y '' points) extent.low.y
  high_y : IsGreatest (Point.y '' points) extent.high.y

/-- The rectangle as it is seen from a point. -/
def seenFrom (extent : Extent Rat) (center : Point Rat) : Extent Rat where
  low := extent.low.seenFrom center
  high := extent.high.seenFrom center

/-- The rectangle of the same size with the origin in its middle. -/
def aroundOrigin (extent : Extent Rat) : Extent Rat where
  low := ⟨-((extent.high.x - extent.low.x) / 2), -((extent.high.y - extent.low.y) / 2)⟩
  high := ⟨(extent.high.x - extent.low.x) / 2, (extent.high.y - extent.low.y) / 2⟩

theorem IsSpannedBy.holds (spanned : extent.IsSpannedBy points) (member : point ∈ points) :
    extent.Holds point where
  low_x_le := spanned.low_x.2 (Set.mem_image_of_mem _ member)
  le_high_x := spanned.high_x.2 (Set.mem_image_of_mem _ member)
  low_y_le := spanned.low_y.2 (Set.mem_image_of_mem _ member)
  le_high_y := spanned.high_y.2 (Set.mem_image_of_mem _ member)

/-- Points span one rectangle only. -/
theorem IsSpannedBy.unique (spanned : extent.IsSpannedBy points)
    (otherSpanned : other.IsSpannedBy points) : extent = other := by
  obtain ⟨⟨lowX, lowY⟩, ⟨highX, highY⟩⟩ := extent
  obtain ⟨⟨lowX', lowY'⟩, ⟨highX', highY'⟩⟩ := other
  obtain rfl : lowX = lowX' := spanned.low_x.unique otherSpanned.low_x
  obtain rfl : lowY = lowY' := spanned.low_y.unique otherSpanned.low_y
  obtain rfl : highX = highX' := spanned.high_x.unique otherSpanned.high_x
  obtain rfl : highY = highY' := spanned.high_y.unique otherSpanned.high_y
  rfl

/-! ## The rectangle of points -/

theorem isSpannedBy_singleton (point : Point Rat) :
    IsSpannedBy ⟨point, point⟩ {point} := by
  constructor <;> simp only [Set.image_singleton, isLeast_singleton, isGreatest_singleton]

/-- A rectangle is grown so far that it is spanned by one more point. -/
theorem IsSpannedBy.grow (spanned : extent.IsSpannedBy points) (point : Point Rat) :
    (extent.grow point).IsSpannedBy (insert point points) := by
  constructor <;> rw [Set.image_insert_eq]
  · exact Scalar.isLeast_smaller spanned.low_x point.x
  · exact Scalar.isGreatest_larger spanned.high_x point.x
  · exact Scalar.isLeast_smaller spanned.low_y point.y
  · exact Scalar.isGreatest_larger spanned.high_y point.y

theorem IsSpannedBy.foldl_grow (spanned : extent.IsSpannedBy points) (others : List (Point Rat)) :
    (others.foldl Extent.grow extent).IsSpannedBy (points ∪ {point | point ∈ others}) := by
  -- What the rectangle already holds is general, since it grows with each point.
  induction others generalizing extent points with
  | nil => simpa using spanned
  | cons first rest ih =>
      have grown := ih (spanned.grow first)
      have same : insert first points ∪ {point | point ∈ rest} =
          points ∪ {point | point ∈ first :: rest} := by
        ext point
        simp [or_assoc, or_left_comm]
      rwa [same] at grown

/-- The rectangle that is computed is the one that the points span. -/
theorem ofPoints?_eq_some_iff {points : List (Point Rat)} :
    ofPoints? points = some extent ↔ extent.IsSpannedBy {point | point ∈ points} := by
  cases points with
  | nil =>
      constructor
      · intro found
        cases found
      · intro spanned
        obtain ⟨point, member, -⟩ := spanned.low_x.1
        cases member
  | cons first rest =>
      have computed := (isSpannedBy_singleton first).foldl_grow rest
      have same : {first} ∪ {point | point ∈ rest} = {point | point ∈ first :: rest} := by
        ext point
        simp
      rw [same] at computed
      rw [ofPoints?, Option.some_inj]
      constructor
      · rintro rfl
        exact computed
      · exact computed.unique

theorem exists_isSpannedBy {points : List (Point Rat)} (nonempty : points ≠ []) :
    ∃ extent : Extent Rat, extent.IsSpannedBy {point | point ∈ points} := by
  cases points with
  | nil => exact absurd rfl nonempty
  | cons first rest => exact ⟨_, ofPoints?_eq_some_iff.mp rfl⟩

/-! ## Points in between -/

/-- A rectangle holds with two points all that lies between them. -/
theorem Holds.between (holdsFirst : extent.Holds first) (holdsSecond : extent.Holds second)
    {share : Rat} (nonneg : 0 ≤ share) (leOne : share ≤ 1) :
    extent.Holds ⟨lerp first.x second.x share, lerp first.y second.y share⟩ where
  low_x_le := Scalar.le_lerp holdsFirst.low_x_le holdsSecond.low_x_le nonneg leOne
  le_high_x := Scalar.lerp_le holdsFirst.le_high_x holdsSecond.le_high_x nonneg leOne
  low_y_le := Scalar.le_lerp holdsFirst.low_y_le holdsSecond.low_y_le nonneg leOne
  le_high_y := Scalar.lerp_le holdsFirst.le_high_y holdsSecond.le_high_y nonneg leOne

/-! ## Moved rectangles -/

theorem Holds.seenFrom (holds : extent.Holds point) (center : Point Rat) :
    (extent.seenFrom center).Holds (point.seenFrom center) where
  low_x_le := sub_le_sub_right holds.low_x_le center.x
  le_high_x := sub_le_sub_right holds.le_high_x center.x
  low_y_le := sub_le_sub_right holds.low_y_le center.y
  le_high_y := sub_le_sub_right holds.le_high_y center.y

/-- Moved points span the moved rectangle. -/
theorem IsSpannedBy.seenFrom (spanned : extent.IsSpannedBy points) (center : Point Rat) :
    (extent.seenFrom center).IsSpannedBy ((fun point => point.seenFrom center) '' points) := by
  have moves (distance : Rat) : Monotone fun value : Rat => value - distance :=
    fun _ _ le => sub_le_sub_right le distance
  have alongX : Point.x '' ((fun point => point.seenFrom center) '' points) =
      (fun value => value - center.x) '' (Point.x '' points) := by
    rw [Set.image_image, Set.image_image]
    rfl
  have alongY : Point.y '' ((fun point => point.seenFrom center) '' points) =
      (fun value => value - center.y) '' (Point.y '' points) := by
    rw [Set.image_image, Set.image_image]
    rfl
  constructor
  · rw [alongX]
    exact (moves center.x).map_isLeast spanned.low_x
  · rw [alongX]
    exact (moves center.x).map_isGreatest spanned.high_x
  · rw [alongY]
    exact (moves center.y).map_isLeast spanned.low_y
  · rw [alongY]
    exact (moves center.y).map_isGreatest spanned.high_y

/-- From its middle a rectangle is seen around the origin. -/
theorem seenFrom_middle (extent : Extent Rat) :
    extent.seenFrom (Point.middle extent.low extent.high) = extent.aroundOrigin := by
  have low (a b : Rat) : a - (a + b) * 0.5 = -((b - a) / 2) := by ring
  have high (a b : Rat) : b - (a + b) * 0.5 = (b - a) / 2 := by ring
  unfold seenFrom aroundOrigin Point.seenFrom Point.middle
  congr 2
  · exact low _ _
  · exact low _ _
  · exact high _ _
  · exact high _ _

end Extent

namespace Point

variable {points others : List (Point Rat)}

/-- The center of points is the middle of the rectangle that they span. -/
theorem centerOf_eq {extent : Extent Rat} (spanned : extent.IsSpannedBy {point | point ∈ points}) :
    centerOf points = middle extent.low extent.high := by
  rw [centerOf, Extent.ofPoints?_eq_some_iff.mpr spanned]

/-- The center depends on nothing but which points there are. -/
theorem centerOf_congr (same : ∀ point, point ∈ points ↔ point ∈ others) :
    centerOf points = centerOf others := by
  have sameSet : {point | point ∈ points} = {point | point ∈ others} := Set.ext same
  have sameExtent : Extent.ofPoints? points = Extent.ofPoints? others := by
    ext extent
    rw [Extent.ofPoints?_eq_some_iff, Extent.ofPoints?_eq_some_iff, sameSet]
  rw [centerOf, sameExtent, ← centerOf]

end Point

/-! ## Vehicles between samples -/

namespace Bracket

theorem share_current (bracket : Bracket Rat) : bracket.share bracket.current.time = 0 := by
  unfold share
  split
  · rw [sub_self, zero_div]
  · rfl

/-- At the time of its first sample a bracket is at that sample. -/
theorem position_current (bracket : Bracket Rat) :
    bracket.position bracket.current.time = bracket.current.position := by
  rw [position, share_current, Scalar.lerp_zero, Scalar.lerp_zero]
  rfl

end Bracket

namespace Trajectory

variable {trajectory : Trajectory Rat} {time : Rat} {place : Nat} {bracket : Bracket Rat}
  {sample : Sample Rat} {extent : Extent Rat}

/-- Less than the whole way from one sample to the next has passed before the next one. -/
theorem IsBetween.share_bounds (between : trajectory.IsBetween time place bracket) :
    0 ≤ bracket.share time ∧ bracket.share time < 1 := by
  have passed : 0 ≤ time - bracket.current.time := sub_nonneg.mpr between.current_le
  have lasts : 0 < bracket.next.time - bracket.current.time :=
    sub_pos.mpr (lt_of_le_of_lt between.current_le between.lt_next)
  rw [Bracket.share, if_pos lasts]
  constructor
  · exact div_nonneg passed lasts.le
  · exact (div_lt_one lasts).mpr (sub_lt_sub_right between.lt_next _)

/-- A rectangle with both samples of a bracket holds the vehicle in between. -/
theorem IsBetween.holds_position (between : trajectory.IsBetween time place bracket)
    (holdsCurrent : extent.Holds bracket.current.position)
    (holdsNext : extent.Holds bracket.next.position) : extent.Holds (bracket.position time) := by
  obtain ⟨nonneg, ltOne⟩ := between.share_bounds
  exact holdsCurrent.between holdsNext nonneg ltOne.le

/-- The time of a sample is held by the bracket that begins there, if there is another sample. -/
theorem IsIncreasing.exists_isBetween_time (increasing : trajectory.IsIncreasing)
    (found : trajectory.samples[place]? = some sample)
    (notLast : place + 1 < trajectory.samples.length) :
    ∃ next, trajectory.IsBetween sample.time place ⟨sample, next⟩ := by
  obtain ⟨within, rfl⟩ := List.getElem?_eq_some_iff.mp found
  have later := List.pairwise_iff_getElem.mp increasing place (place + 1) within notLast
    (Nat.lt_succ_self place)
  exact ⟨_, found, List.getElem?_eq_getElem notLast, Rat.le_refl, later⟩

variable [Planar Rat]

/-- A vehicle is seen between the two samples around the time, and at a sample at its time. -/
structure KeepsToSamples (trajectory : Trajectory Rat) : Prop where
  /-- A pose lies in the rectangle that the two samples around its time span. -/
  holds_pose : ∀ time previous pose, trajectory.pose? time previous = some pose →
    ∃ place bracket, ∃ extent : Extent Rat, trajectory.IsBetween time place bracket ∧
      extent.IsSpannedBy {bracket.current.position, bracket.next.position} ∧
      extent.Holds pose.position
  /-- At the time of a sample, but for the last one, the pose is that of the sample. -/
  pose_eq_sample : ∀ place sample, trajectory.samples[place]? = some sample →
    place + 1 < trajectory.samples.length → ∀ previous, ∃ heading,
      trajectory.pose? sample.time previous =
        some ⟨trajectory.id, sample.position, heading, sample.speed⟩

theorem IsIncreasing.keepsToSamples (increasing : trajectory.IsIncreasing) :
    trajectory.KeepsToSamples where
  holds_pose time previous pose found := by
    obtain ⟨place, bracket, between, rfl⟩ := increasing.pose?_eq_some_iff.mp found
    have spanned : Extent.IsSpannedBy _ {bracket.current.position, bracket.next.position} :=
      (Extent.isSpannedBy_singleton bracket.next.position).grow bracket.current.position
    have holdsCurrent := spanned.holds (Set.mem_insert _ _)
    have holdsNext := spanned.holds (Set.mem_insert_of_mem _ rfl)
    exact ⟨place, bracket, _, between, spanned, between.holds_position holdsCurrent holdsNext⟩
  pose_eq_sample place sample found notLast previous := by
    obtain ⟨next, between⟩ := increasing.exists_isBetween_time found notLast
    have atSample := Bracket.position_current ⟨sample, next⟩
    refine ⟨Bracket.heading ⟨sample, next⟩ previous, ?_⟩
    exact increasing.pose?_eq_some_iff.mpr ⟨place, _, between, by rw [atSample]⟩

end Trajectory

/-! ## The scene of a store -/

namespace Store

variable {store : Store Rat} {extent : Extent Rat} {vehicle : Trajectory Rat}
  {time previous : Rat}

/-- The places of all samples of all vehicles. -/
def samplePlaces (store : Store Rat) : Set (Point Rat) :=
  {point | ∃ vehicle ∈ store.vehicles, ∃ sample ∈ vehicle.samples, sample.position = point}

theorem mem_samplePlaces_iff {point : Point Rat} :
    point ∈ store.vehicles.flatMap (fun vehicle => vehicle.samples.map Sample.position) ↔
      point ∈ store.samplePlaces := by
  simp [samplePlaces]

theorem setOf_mem_samplePlaces (store : Store Rat) :
    {point | point ∈ store.vehicles.flatMap fun vehicle => vehicle.samples.map Sample.position} =
      store.samplePlaces :=
  Set.ext fun _ => mem_samplePlaces_iff

theorem exists_isSpannedBy_samplePlaces (nonempty : store.samplePlaces.Nonempty) :
    ∃ extent : Extent Rat, extent.IsSpannedBy store.samplePlaces := by
  obtain ⟨point, member⟩ := nonempty
  have spanned := Extent.exists_isSpannedBy (List.ne_nil_of_mem (mem_samplePlaces_iff.mpr member))
  rwa [setOf_mem_samplePlaces] at spanned

/-- In the scene the middle of all samples is the origin. -/
theorem placeVehicle_eq (spanned : extent.IsSpannedBy store.samplePlaces) (point : Point Rat) :
    (SceneBounds.ofStore store).placeVehicle point =
      point.seenFrom (Point.middle extent.low extent.high) := by
  rw [← setOf_mem_samplePlaces] at spanned
  exact congrArg point.seenFrom (Point.centerOf_eq spanned)

/-- The rectangle of all samples holds a vehicle wherever it is. -/
theorem exists_holds_pose [Planar Rat] {pose : Pose Rat} (member : vehicle ∈ store.vehicles)
    (increasing : vehicle.IsIncreasing) (found : vehicle.pose? time previous = some pose) :
    ∃ extent : Extent Rat, extent.IsSpannedBy store.samplePlaces ∧ extent.Holds pose.position := by
  obtain ⟨place, bracket, between, rfl⟩ := increasing.pose?_eq_some_iff.mp found
  have listed {sample : Sample Rat} {index : Nat}
      (isSample : vehicle.samples[index]? = some sample) : sample.position ∈ store.samplePlaces :=
    ⟨vehicle, member, sample, List.mem_of_getElem? isSample, rfl⟩
  have current := listed between.current_eq
  have next := listed between.next_eq
  obtain ⟨extent, spanned⟩ := exists_isSpannedBy_samplePlaces ⟨_, current⟩
  exact ⟨extent, spanned, between.holds_position (spanned.holds current) (spanned.holds next)⟩

/-- In the scene the samples span the rectangle around the origin. -/
theorem isSpannedBy_placeVehicle (spanned : extent.IsSpannedBy store.samplePlaces) :
    extent.aroundOrigin.IsSpannedBy
      ((SceneBounds.ofStore store).placeVehicle '' store.samplePlaces) := by
  rw [← Extent.seenFrom_middle, funext (placeVehicle_eq spanned)]
  exact spanned.seenFrom _

/-- What the rectangle of all samples holds is in the scene where it lies around the origin. -/
theorem holds_placeVehicle {point : Point Rat} (spanned : extent.IsSpannedBy store.samplePlaces)
    (holds : extent.Holds point) :
    extent.aroundOrigin.Holds ((SceneBounds.ofStore store).placeVehicle point) := by
  rw [← Extent.seenFrom_middle, placeVehicle_eq spanned]
  exact holds.seenFrom _

/-- The bounds do not depend on the order of the vehicles. -/
theorem ofStore_perm {vehicles : List (Trajectory Rat)} (perm : vehicles.Perm store.vehicles) :
    SceneBounds.ofStore { store with vehicles := vehicles } = SceneBounds.ofStore store := by
  have sameCenter := Point.centerOf_congr fun point =>
    (perm.flatMap_right fun vehicle => vehicle.samples.map Sample.position).mem_iff (a := point)
  exact congrArg (SceneBounds.mk _) sameCenter

/-- **The scene lies around the origin.**  In exact arithmetic and for samples that are strictly
increasing in time, every vehicle keeps to its samples.  The rectangle that all samples span, moved
with its middle to the origin, is spanned by the samples where the scene has them, and it holds what
every frame of every run shows of a vehicle where the scene has that.  The order of the vehicles
does not count for where anything is. -/
theorem scene_around_origin [Planar Rat] (store : Store Rat)
    (increasing : ∀ vehicle ∈ store.vehicles, vehicle.IsIncreasing) :
    (∀ vehicle ∈ store.vehicles, vehicle.KeepsToSamples) ∧
    (store.samplePlaces.Nonempty → ∃ extent : Extent Rat, extent.IsSpannedBy store.samplePlaces ∧
      extent.aroundOrigin.IsSpannedBy
        ((SceneBounds.ofStore store).placeVehicle '' store.samplePlaces)) ∧
    (∀ config first, Session.start store config = .ok first → ∀ ops, ∃ last frames,
      first.run ops = .ok (last, frames) ∧ ∀ frame ∈ frames, ∀ pose ∈ frame.poses,
        ∃ extent : Extent Rat, extent.IsSpannedBy store.samplePlaces ∧
          extent.aroundOrigin.Holds ((SceneBounds.ofStore store).placeVehicle pose.position)) ∧
    ∀ vehicles, vehicles.Perm store.vehicles →
      SceneBounds.ofStore { store with vehicles := vehicles } = SceneBounds.ofStore store := by
  refine ⟨fun vehicle member => (increasing vehicle member).keepsToSamples, ?_, ?_,
    fun vehicles => ofStore_perm⟩
  · intro nonempty
    obtain ⟨extent, spanned⟩ := exists_isSpannedBy_samplePlaces nonempty
    exact ⟨extent, spanned, isSpannedBy_placeVehicle spanned⟩
  · intro config first started ops
    obtain ⟨last, frames, ran, shows⟩ := Session.run_shows started ops
    refine ⟨last, frames, ran, ?_⟩
    intro frame member pose shown
    obtain ⟨vehicle, listed, previous, found⟩ := (shows frame member).exists_pose? shown
    obtain ⟨extent, spanned, holds⟩ := exists_holds_pose listed (increasing vehicle listed) found
    exact ⟨extent, spanned, holds_placeVehicle spanned holds⟩

/-- A vehicle that goes, one without samples and one that stands apart, after a fifth of a second at
the standard speed. -/
theorem scene_around_origin_three_vehicles :
    let _ : Planar Rat := ⟨fun a => a, fun y x => y / x, 157 / 100, 0⟩
    let goes : Trajectory Rat := ⟨"goes", [⟨0, 0, 0, 1⟩, ⟨2, 4, 2, 3⟩]⟩
    let absent : Trajectory Rat := ⟨"absent", []⟩
    let stands : Trajectory Rat := ⟨"stands", [⟨1, 0, 6, 0⟩]⟩
    let store : Store Rat := ⟨[], [], [goes, absent, stands], [], [], none⟩
    let first : Session Rat :=
      ⟨store, .standard, .standard, .start 5 true, [0, 0, 0]⟩
    (∀ vehicle ∈ store.vehicles, vehicle.IsIncreasing) ∧ goes.KeepsToSamples ∧
      Session.start store .standard = .ok first ∧
      (∃ last frame, first.run [.tick (1 / 5)] = .ok (last, [frame]) ∧
        frame.poses.map Pose.position = [⟨2, 1⟩] ∧ ∀ pose ∈ frame.poses,
          ∃ extent : Extent Rat, extent.IsSpannedBy store.samplePlaces ∧
            extent.aroundOrigin.IsSpannedBy
              ((SceneBounds.ofStore store).placeVehicle '' store.samplePlaces) ∧
            extent.aroundOrigin.Holds ((SceneBounds.ofStore store).placeVehicle pose.position)) ∧
      SceneBounds.ofStore { store with vehicles := [absent, goes, stands] } =
        SceneBounds.ofStore store := by
  intro _ goes absent stands store first
  have increasing : ∀ vehicle ∈ store.vehicles, vehicle.IsIncreasing := by
    unfold Trajectory.IsIncreasing
    decide +kernel
  have started : Session.start store .standard = .ok first := by decide +kernel
  obtain ⟨keeps, spans, shows, perm⟩ := scene_around_origin store increasing
  obtain ⟨last, frames, ran, holds⟩ := shows _ first started [.tick (1 / 5)]
  cases ran
  refine ⟨increasing, keeps goes List.mem_cons_self, started, ⟨_, _, rfl, by decide +kernel, ?_⟩,
    perm _ (.swap _ _ _)⟩
  intro pose shown
  obtain ⟨extent, spanned, placed⟩ :=
    spans ⟨⟨0, 0⟩, goes, List.mem_cons_self, ⟨0, 0, 0, 1⟩, List.mem_cons_self, rfl⟩
  obtain ⟨other, otherSpanned, held⟩ := holds _ (List.mem_singleton.mpr rfl) pose shown
  obtain rfl := spanned.unique otherSpanned
  exact ⟨extent, spanned, placed, held⟩

end Store

end JunctionReplay
