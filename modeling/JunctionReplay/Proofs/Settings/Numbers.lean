import JunctionReplay.Proofs.Settings.Accepted
import JunctionReplay.Scalar.Machine

/-!
# Numbers in settings

Each group of settings is checked on its own, and no two of the checks compare numbers in the same
way.  Those of the playback and of the cycle first make sure that a number is finite, so that only
finite and positive ones get through.  The check of the scene only refuses a lane width that is not
above zero by comparison, and an undefined number compares to none, so that it gets through, and
so does the infinite one.

## Main Definitions

* `Config.IsUsable` — settings in which every number makes sense.

## Main Statements

* `CycleTiming.check_eq_ok_iff`, `SceneSettings.check_eq_ok_iff` — what passes the checks.
* `Config.ofText_isUsable_iff` — which settings of a text are usable.
* `Config.ofText_undefined_laneWidth` — some are not.
-/

namespace JunctionReplay

variable {α : Type} [Scalar α]

/-! ## Checks -/

/-- The timing of a cycle whose phases have finite and positive durations. -/
structure CycleTiming.IsUsable (timing : CycleTiming α) : Prop where
  isFinite_pos : ∀ named ∈ timing.namedDurations, Scalar.isFinite named.2 ∧ 0 < named.2
  one_le_fallbackStateLength : 1 ≤ timing.fallbackStateLength

/-- The check of a timing passes exactly for usable ones. -/
theorem CycleTiming.check_eq_ok_iff [OrderedScalar α] (timing : CycleTiming α) :
    timing.check = .ok () ↔ timing.IsUsable := by
  have noneFound : (timing.namedDurations.find? fun named =>
        !Scalar.isFinite named.2 || decide (named.2 ≤ 0)) = none ↔
      ∀ named ∈ timing.namedDurations, Scalar.isFinite named.2 ∧ 0 < named.2 := by
    rw [List.find?_eq_none]
    refine forall₂_congr fun named member => ?_
    rw [Bool.or_eq_true, not_or, Bool.not_eq_true', Bool.not_eq_false, decide_eq_true_iff]
    refine and_congr_right fun finite => ⟨?_, Scalar.not_le_of_lt⟩
    exact Scalar.lt_of_not_le Scalar.isNumber_zero (OrderedScalar.isNumber_of_isFinite finite)
  unfold check
  cases found : timing.namedDurations.find? fun named =>
      !Scalar.isFinite named.2 || decide (named.2 ≤ 0) with
  | some faulty =>
      refine ⟨nofun, fun usable => ?_⟩
      rw [noneFound.mpr usable.isFinite_pos] at found
      cases found
  | none =>
      have durations := noneFound.mp found
      by_cases empty : timing.fallbackStateLength = 0
      · rw [if_pos empty]
        refine ⟨nofun, fun usable => ?_⟩
        exact absurd usable.one_le_fallbackStateLength (by omega)
      · rw [if_neg empty]
        exact ⟨fun _ => ⟨durations, by omega⟩, fun _ => rfl⟩

/-- The check of the scene passes unless there is a lane width that is not above zero by
comparison. -/
theorem SceneSettings.check_eq_ok_iff (settings : SceneSettings α) :
    settings.check = .ok () ↔ ∀ width ∈ settings.laneWidth, ¬ width ≤ 0 := by
  unfold check
  cases settings.laneWidth with
  | none => simp
  | some width => by_cases small : width ≤ 0 <;> simp [small]

namespace Config

/-- All checks have to pass. -/
theorem check_eq_ok_iff (config : Config α) :
    config.check = .ok () ↔
      config.playback.check = .ok () ∧ config.cycle.check = .ok () ∧
        config.scene.check = .ok () := by
  unfold check
  cases config.playback.check with
  | error fault => simp [bind, Except.bind]
  | ok =>
      cases config.cycle.check with
      | error fault => simp [bind, Except.bind]
      | ok => simp [bind, Except.bind]

/-! ## Usable settings -/

/-- The numbers of the settings that need not be whole. -/
def numbers (config : Config α) : List α :=
  [config.playback.minSpeed, config.playback.initialSpeed, config.playback.maxSpeed,
    config.playback.frameRate, config.cycle.northSouthGreen, config.cycle.northSouthYellow,
    config.cycle.eastWestGreen, config.cycle.eastWestYellow] ++ config.scene.laneWidth.toList

/-- Settings are usable throughout: the speeds are in order, and every number is finite and
positive. -/
structure IsUsable (config : Config α) : Prop where
  minSpeed_le_initialSpeed : config.playback.minSpeed ≤ config.playback.initialSpeed
  initialSpeed_le_maxSpeed : config.playback.initialSpeed ≤ config.playback.maxSpeed
  isFinite_pos : ∀ number ∈ config.numbers, Scalar.isFinite number ∧ 0 < number
  one_le_fallbackStateLength : 1 ≤ config.cycle.fallbackStateLength

/-- A lane width of usable settings is one of their numbers. -/
theorem IsUsable.isFinite_laneWidth {config : Config α} (usable : config.IsUsable) {width : α}
    (member : width ∈ config.scene.laneWidth) : Scalar.isFinite width :=
  (usable.isFinite_pos width (List.mem_append_right _ (Option.mem_toList.mpr member))).1

/-- Usable groups and a usable lane width, if there is one, make usable settings. -/
theorem isUsable_of_groups [OrderedScalar α] {config : Config α}
    (playback : config.playback.IsUsable) (cycle : config.cycle.IsUsable)
    (scene : ∀ width ∈ config.scene.laneWidth, Scalar.isFinite width ∧ 0 < width) :
    config.IsUsable where
  minSpeed_le_initialSpeed := playback.minSpeed_le_initialSpeed
  initialSpeed_le_maxSpeed := playback.initialSpeed_le_maxSpeed
  one_le_fallbackStateLength := cycle.one_le_fallbackStateLength
  isFinite_pos := by
    have initialPos := Scalar.lt_of_lt_of_le playback.minSpeed_pos playback.minSpeed_le_initialSpeed
    have maxPos := Scalar.lt_of_lt_of_le playback.minSpeed_pos playback.minSpeed_le_maxSpeed
    have durations := cycle.isFinite_pos
    simp only [CycleTiming.namedDurations, List.forall_mem_cons] at durations
    intro number member
    rcases List.mem_append.mp member with fixed | width
    · simp only [List.mem_cons, List.not_mem_nil, or_false] at fixed
      rcases fixed with rfl | rfl | rfl | rfl | rfl | rfl | rfl | rfl
      · exact ⟨playback.isFinite_minSpeed, playback.minSpeed_pos⟩
      · exact ⟨playback.isFinite_initialSpeed, initialPos⟩
      · exact ⟨playback.isFinite_maxSpeed, maxPos⟩
      · exact ⟨playback.isFinite_frameRate, playback.frameRate_pos⟩
      · exact durations.1
      · exact durations.2.1
      · exact durations.2.2.1
      · exact durations.2.2.2.1
    · exact scene number (Option.mem_toList.mp width)

/-- **Numbers of accepted settings.**  The settings that are accepted are usable throughout, exactly
unless they have a lane width that is not finite.  The groups of the playback and of the cycle are
usable in any case, and no lane width is zero or below. -/
theorem ofText_isUsable_iff {text : String} {config : Config Float}
    (accepted : ofText text = .ok config) :
    (config.IsUsable ↔ ∀ width ∈ config.scene.laneWidth, Scalar.isFinite width) ∧
      config.playback.IsUsable ∧ config.cycle.IsUsable ∧
      ∀ width ∈ config.scene.laneWidth, ¬ width ≤ 0 := by
  obtain ⟨checkedPlayback, checkedCycle, checkedScene⟩ :=
    config.check_eq_ok_iff.mp (check_of_ofText accepted)
  have playback := config.playback.check_eq_ok_iff.mp checkedPlayback
  have cycle := config.cycle.check_eq_ok_iff.mp checkedCycle
  have notBelow := config.scene.check_eq_ok_iff.mp checkedScene
  refine ⟨⟨fun usable _ => usable.isFinite_laneWidth, fun finite => ?_⟩, playback, cycle, notBelow⟩
  refine isUsable_of_groups playback cycle fun width member => ⟨finite width member, ?_⟩
  exact Scalar.lt_of_not_le Scalar.isNumber_zero
    (OrderedScalar.isNumber_of_isFinite (finite width member)) (notBelow width member)

/-- A text whose lane width can be read is accepted with it. -/
theorem exists_ofText_of_laneWidth {text : String} {width : Option Float}
    (read : (ofText text).toOption.map (·.scene.laneWidth) = some width) :
    ∃ config, ofText text = .ok config ∧ config.scene.laneWidth = width := by
  cases accepted : ofText text with
  | error fault =>
      rw [accepted] at read
      cases read
  | ok config =>
      rw [accepted] at read
      exact ⟨config, rfl, Option.some.inj read⟩

/-- Settings of all groups, with a lane width that is finite. -/
theorem ofText_isUsable_iff_all_groups :
    ∃ config, ofText "[playback]
max_speed = 8
[signals]
ns_green = 12.5
[scene]
road_lane_width = 3.5" = .ok config ∧ config.IsUsable := by
  obtain ⟨config, accepted, width⟩ : ∃ config, ofText "[playback]
max_speed = 8
[signals]
ns_green = 12.5
[scene]
road_lane_width = 3.5" = .ok config ∧ config.scene.laneWidth = some 3.5 :=
    exists_ofText_of_laneWidth (by decide +kernel)
  refine ⟨config, accepted, (ofText_isUsable_iff accepted).1.mpr ?_⟩
  rw [width]
  rintro width ⟨⟩
  decide

/-- An undefined lane width is accepted. -/
theorem ofText_undefined_laneWidth :
    ∃ config, ofText "[scene]
road_lane_width = nan" = .ok config ∧ ¬ config.IsUsable := by
  obtain ⟨config, accepted, width⟩ : ∃ config, ofText "[scene]
road_lane_width = nan" = .ok config ∧ config.scene.laneWidth = some Machine.undefined :=
    exists_ofText_of_laneWidth (by decide +kernel)
  refine ⟨config, accepted, fun usable => ?_⟩
  have finite : Scalar.isFinite Machine.undefined := usable.isFinite_laneWidth width
  exact absurd finite (by decide)

end Config

end JunctionReplay
