import Mathlib.Algebra.Order.Floor.Semifield
import Mathlib.Data.Rat.Floor
import Mathlib.Tactic.Linarith
import Mathlib.Tactic.NormNum
import Mathlib.Tactic.Ring
import JunctionReplay.Proofs.Run.Frames

/-!
# The reports of a run

A run counts two things at different rates.  Every frame takes it a delta further, and every report
takes the time of the next one a second further.  What both come to after any number of frames is
one invariant, `Run.HasShown`: the run has lasted for so many deltas, and it has reported as often
as `Run.reportCount` says, once for each whole second that has begun, but at most once in a frame.

With frames closer than a second the seconds are what counts, so that the first frame of each second
is reported; with frames a second or more apart the frames are what counts, and all of them are.

## Main Definitions

* `Run.frameAfter`, `Run.framesFrom` — single frames and the first frames of a run, whether it is over
  by then or not.
* `Run.HasShown` — what holds of a run after a number of frames.
* `RunSummary.ReportsSeconds` — which frames of a run are reported.

## Main Statements

* `Run.HasShown.advance` — what one frame makes of both counts.
* `Run.playFrom_eq_some` — a run shows its first frames, up to the one with which it is over.
* `Run.play_reports_seconds` — how many frames a run has, and which of them it reports.
-/

namespace JunctionReplay

/-! ## Frames -/

namespace Run

section

variable {α : Type} [Scalar α] [Planar α]

/-- What a number of frames leaves of a run. -/
def after (delta : α) : (count : Nat) → Run α → Run α
  | 0, run => run
  | count + 1, run => after delta count (run.advance delta).next

/-- The frame that a run shows behind a number of others. -/
def frameAfter (delta : α) (count : Nat) (run : Run α) : RunFrame α :=
  (after delta count run).advance delta

/-- The first frames of a run. -/
def framesFrom (delta : α) (count : Nat) (run : Run α) : List (RunFrame α) :=
  (List.range count).map fun index => frameAfter delta index run

theorem frameAfter_zero (delta : α) (run : Run α) : frameAfter delta 0 run = run.advance delta := rfl

theorem frameAfter_succ (delta : α) (count : Nat) (run : Run α) :
    frameAfter delta (count + 1) run = frameAfter delta count (run.advance delta).next := rfl

theorem framesFrom_succ (delta : α) (count : Nat) (run : Run α) :
    framesFrom delta (count + 1) run =
      run.advance delta :: framesFrom delta count (run.advance delta).next := by
  rw [framesFrom, List.range_succ_eq_map, List.map_cons, List.map_map]
  rfl

/-- A frame shows every session that the run is of. -/
theorem isComparing_after (delta : α) (count : Nat) (run : Run α) :
    (after delta count run).view.isComparing = run.view.isComparing := by
  induction count generalizing run with
  | zero => rfl
  | succ count ih =>
      rw [after, ih]
      show Option.isSome (Option.map _ (Option.map _ run.view.optimized)) = _
      rw [Option.isSome_map, Option.isSome_map, Comparison.isComparing]

theorem isSome_shown_advance (run : Run α) (delta : α) :
    (run.advance delta).shown.optimized.isSome = run.view.isComparing := by
  show Option.isSome (Option.map _ (Option.map _ run.view.optimized)) = _
  rw [Option.isSome_map, Option.isSome_map, Comparison.isComparing]

end

/-! ## Seconds -/

section

variable {delta : Rat}

/-- The whole second of a run that is reached with a number of frames. -/
def secondAt (delta : Rat) (count : Nat) : Nat := ⌊count * delta⌋₊

/-- How many frames are reported of a number of frames. -/
def reportCount (delta : Rat) (count : Nat) : Nat := min count (secondAt delta count + 1)

theorem secondAt_mono (forward : 0 < delta) {count other : Nat} (le : count ≤ other) :
    secondAt delta count ≤ secondAt delta other := by
  apply Nat.floor_le_floor
  exact mul_le_mul_of_nonneg_right (by exact_mod_cast le) forward.le

/-- Frames closer than a second leave none out. -/
theorem secondAt_succ_le (forward : 0 < delta) (close : delta < 1) (count : Nat) :
    secondAt delta (count + 1) ≤ secondAt delta count + 1 := by
  have below : (count : Rat) * delta < secondAt delta count + 1 := Nat.lt_floor_add_one _
  have next : ((count + 1 : Nat) : Rat) * delta < (secondAt delta count + 1 + 1 : Nat) := by
    push_cast
    linarith
  have nonneg : 0 ≤ ((count + 1 : Nat) : Rat) * delta := by positivity
  exact Nat.le_of_lt_succ ((Nat.floor_lt nonneg).mpr next)

/-- Frames closer than a second stay behind their number. -/
theorem secondAt_lt (forward : 0 < delta) (close : delta < 1) {count : Nat} (positive : 0 < count) :
    secondAt delta count < count := by
  have some : (0 : Rat) < count := by exact_mod_cast positive
  exact (Nat.floor_lt (by positivity)).mpr (mul_lt_of_lt_one_right some close)

/-- Frames a second or more apart keep up with their number. -/
theorem le_secondAt (apart : 1 ≤ delta) (count : Nat) : count ≤ secondAt delta count :=
  Nat.le_floor (le_mul_of_one_le_right (Nat.cast_nonneg count) apart)

theorem reportCount_of_lt (forward : 0 < delta) (close : delta < 1) {count : Nat}
    (positive : 0 < count) : reportCount delta count = secondAt delta count + 1 := by
  have behind := secondAt_lt forward close positive
  unfold reportCount
  omega

theorem reportCount_of_le (apart : 1 ≤ delta) (count : Nat) : reportCount delta count = count := by
  have keepsUp := le_secondAt apart count
  unfold reportCount
  omega

/-- The frame behind a number of frames is reported, since the second that it reaches is not behind
the reports. -/
def IsDue (delta : Rat) (count : Nat) : Prop := reportCount delta count ≤ secondAt delta (count + 1)

instance (delta : Rat) (count : Nat) : Decidable (IsDue delta count) :=
  inferInstanceAs (Decidable (_ ≤ _))

/-- One more frame is reported if it is due. -/
theorem reportCount_succ (forward : 0 < delta) (count : Nat) :
    reportCount delta (count + 1) =
      if IsDue delta count then reportCount delta count + 1 else reportCount delta count := by
  have isDue : IsDue delta count ↔ reportCount delta count ≤ secondAt delta (count + 1) := Iff.rfl
  have step : reportCount delta (count + 1) = reportCount delta count + 1 ∧
        reportCount delta count ≤ secondAt delta (count + 1) ∨
      reportCount delta (count + 1) = reportCount delta count ∧
        secondAt delta (count + 1) < reportCount delta count := by
    have positiveNext : 0 < count + 1 := by omega
    rcases lt_or_ge delta 1 with close | apart
    · rw [reportCount_of_lt forward close positiveNext]
      rcases Nat.eq_zero_or_pos count with rfl | positive
      · have first := secondAt_lt forward close positiveNext
        have none : reportCount delta 0 = 0 := Nat.zero_min _
        omega
      · have next := secondAt_succ_le forward close count
        have grows : secondAt delta count ≤ secondAt delta (count + 1) :=
          secondAt_mono forward count.le_succ
        rw [reportCount_of_lt forward close positive]
        omega
    · have keepsUp := le_secondAt apart (count + 1)
      rw [reportCount_of_le apart, reportCount_of_le apart]
      omega
  rcases step with ⟨more, due⟩ | ⟨same, notDue⟩
  · rw [if_pos (isDue.mpr due), more]
  · rw [if_neg fun due => absurd (isDue.mp due) (Nat.not_le.mpr notDue), same]

/-- Of frames closer than a second the first one of each second is reported. -/
theorem isDue_iff (forward : 0 < delta) (close : delta < 1) {count : Nat} :
    IsDue delta count ↔
      ∀ index < count, secondAt delta (index + 1) < secondAt delta (count + 1) := by
  rcases Nat.eq_zero_or_pos count with rfl | positive
  · exact iff_of_true (Nat.zero_le _) nofun
  · rw [IsDue, reportCount_of_lt forward close positive]
    constructor
    · intro due index earlier
      have before : secondAt delta (index + 1) ≤ secondAt delta count :=
        secondAt_mono forward earlier
      omega
    · intro first
      have previous := first (count - 1) (by omega)
      rwa [Nat.sub_add_cancel positive] at previous

/-- As many frames are due as are reported. -/
theorem length_filter_isDue (forward : 0 < delta) (count : Nat) :
    ((List.range count).filter fun index => IsDue delta index).length =
      reportCount delta count := by
  induction count with
  | zero => exact (Nat.zero_min _).symm
  | succ count ih =>
      rw [List.range_succ, List.filter_append, List.length_append, ih, reportCount_succ forward]
      by_cases due : IsDue delta count
      · rw [if_pos due]
        simp [due]
      · rw [if_neg due]
        simp [due]

/-- Of frames closer than a second, one is due in each second that is reached. -/
theorem map_secondAt_filter_isDue (forward : 0 < delta) (close : delta < 1) (count : Nat) :
    ((List.range count).filter fun index => IsDue delta index).map
        (fun index => secondAt delta (index + 1)) = List.range (reportCount delta count) := by
  induction count with
  | zero => simp [reportCount]
  | succ count ih =>
      have next := reportCount_succ forward count
      rw [List.range_succ, List.filter_append, List.map_append, ih]
      by_cases due : IsDue delta count
      · rw [if_pos due] at next
        have reached := reportCount_of_lt forward close (show 0 < count + 1 by omega)
        have second : secondAt delta (count + 1) = reportCount delta count := by omega
        simp [due, next, second, List.range_succ]
      · rw [if_neg due] at next
        simp [due, next]

/-! ## The number of frames -/

/-- As many frames as a duration takes up, but at least one. -/
def frameCount (delta duration : Rat) : Nat := max 1 ⌈duration / delta⌉₊

theorem duration_le_frameCount (forward : 0 < delta) (duration : Rat) :
    duration ≤ frameCount delta duration * delta := by
  have le : (⌈duration / delta⌉₊ : Rat) ≤ frameCount delta duration := by
    exact_mod_cast le_max_right _ _
  exact (div_le_iff₀ forward).mp ((Nat.le_ceil _).trans le)

theorem mul_lt_of_lt_frameCount (forward : 0 < delta) {index : Nat} (positive : 0 < index)
    (lt : index < frameCount delta duration) : index * delta < duration := by
  have below : index < ⌈duration / delta⌉₊ := by
    unfold frameCount at lt
    omega
  exact (lt_div_iff₀ forward).mp (Nat.lt_ceil.mp below)

/-- The frames that a run is followed for are enough. -/
theorem frameCount_le_frameLimit (forward : 0 < delta) (duration : Rat) :
    frameCount delta duration ≤ frameLimit delta duration := by
  have some : 1 ≤ frameLimit delta duration := by
    rw [frameLimit, if_pos forward]
    omega
  have enough : ⌈duration / delta⌉₊ ≤ frameLimit delta duration :=
    Nat.ceil_le.mpr ((div_le_iff₀ forward).mpr (duration_le_frameLimit forward duration))
  exact max_le some enough

/-! ## Counts -/

section

variable {duration : Rat} {count left fuel : Nat} {run : Run Rat}

/-- A run has shown a number of frames, each a delta after the one before. -/
structure HasShown (run : Run Rat) (delta : Rat) (count : Nat) : Prop where
  frames_eq : run.frames = count
  elapsed_eq : run.elapsed = count * delta
  nextReport_eq : run.nextReport = reportCount delta count

theorem hasShown_start (view : Comparison Rat) (delta : Rat) : (start view).HasShown delta 0 where
  frames_eq := rfl
  elapsed_eq := (Rat.zero_mul delta).symm
  nextReport_eq := rfl

variable [Planar Rat]

theorem HasShown.elapsed_advance (shown : run.HasShown delta count) :
    (run.advance delta).next.elapsed = (count + 1 : Nat) * delta := by
  show run.elapsed + delta = _
  rw [shown.elapsed_eq]
  push_cast
  ring

/-- A frame is reported if it is due. -/
theorem HasShown.isReported_iff (shown : run.HasShown delta count) (forward : 0 < delta) :
    (run.advance delta).isReported ↔ IsDue delta count := by
  have reached : 0 ≤ ((count + 1 : Nat) : Rat) * delta := by positivity
  rw [IsDue, secondAt, Nat.le_floor_iff reached, ← shown.elapsed_advance, ← shown.nextReport_eq]
  exact decide_eq_true_iff

/-- One frame takes a run a delta further, and a report takes the next one a second further. -/
theorem HasShown.advance (shown : run.HasShown delta count) (forward : 0 < delta) :
    (run.advance delta).next.HasShown delta (count + 1) where
  frames_eq := congrArg (· + 1) shown.frames_eq
  elapsed_eq := shown.elapsed_advance
  nextReport_eq := by
    show (if (run.advance delta).isReported then run.nextReport + 1 else run.nextReport) = _
    rw [reportCount_succ forward, shown.nextReport_eq]
    by_cases due : IsDue delta count
    · rw [if_pos due, if_pos ((shown.isReported_iff forward).mpr due)]
      push_cast
      rfl
    · rw [if_neg due, if_neg fun reported => due ((shown.isReported_iff forward).mp reported)]

theorem HasShown.after (shown : run.HasShown delta count) (forward : 0 < delta) (more : Nat) :
    (Run.after delta more run).HasShown delta (count + more) := by
  induction more generalizing run count with
  | zero => exact shown
  | succ more ih =>
      have further := ih (shown.advance forward)
      rwa [Nat.add_assoc, Nat.add_comm 1 more] at further

/-- A run that goes on for a number of frames and is over with the next one shows and reports these
frames. -/
theorem playFrom_eq_some (shown : run.HasShown delta count) (forward : 0 < delta)
    (enough : left < fuel)
    (goesOn : ∀ index, count < index → index ≤ count + left → index * delta < duration)
    (ends : duration ≤ (count + left + 1 : Nat) * delta) (reports : List (RunFrame Rat)) :
    playFrom delta duration reports fuel run =
      some ⟨reports.reverse ++ (framesFrom delta (left + 1) run).filter RunFrame.isReported,
        frameAfter delta left run⟩ := by
  -- On the frames behind which the run goes on: one of them is shown, and the others are left.
  induction left generalizing run count fuel reports with
  | zero =>
      obtain ⟨fuel, rfl⟩ : ∃ more, fuel = more + 1 := ⟨fuel - 1, by omega⟩
      have isLast : (run.advance delta).next.isOver duration := by
        rw [isOver, decide_eq_true_iff, shown.elapsed_advance]
        exact ends
      rw [playFrom, if_pos isLast]
      cases reported : (run.advance delta).isReported <;> simp [framesFrom, frameAfter_zero, reported]
  | succ left ih =>
      obtain ⟨fuel, rfl⟩ : ∃ more, fuel = more + 1 := ⟨fuel - 1, by omega⟩
      have notLast : ¬ (run.advance delta).next.isOver duration := by
        rw [isOver, decide_eq_true_iff, shown.elapsed_advance, not_le]
        exact goesOn (count + 1) (by omega) (by omega)
      have sum : count + 1 + left = count + (left + 1) := by omega
      have rest := ih (shown.advance forward) (by omega : left < fuel)
        (fun index later within => goesOn index (by omega) (by omega)) (by rwa [sum])
      rw [playFrom, if_neg notLast, framesFrom_succ delta (left + 1) run, frameAfter_succ, rest]
      cases reported : (run.advance delta).isReported <;> simp [reported]

/-! ## The frames from the start -/

theorem HasShown.before_frame (shown : run.HasShown delta 0) (forward : 0 < delta)
    (index : Nat) : (Run.after delta index run).HasShown delta index := by
  have before := shown.after forward index
  rwa [Nat.zero_add] at before

theorem HasShown.behind_frame (shown : run.HasShown delta 0) (forward : 0 < delta)
    (index : Nat) : (frameAfter delta index run).next.HasShown delta (index + 1) :=
  (shown.before_frame forward index).advance forward

theorem HasShown.isReported_frame_iff (shown : run.HasShown delta 0) (forward : 0 < delta)
    (index : Nat) : (frameAfter delta index run).isReported ↔ IsDue delta index :=
  (shown.before_frame forward index).isReported_iff forward

theorem mem_framesFrom {frame : RunFrame Rat} :
    frame ∈ framesFrom delta count run ↔
      ∃ index < count, frameAfter delta index run = frame := by
  simp [framesFrom]

theorem filter_isReported_framesFrom (shown : run.HasShown delta 0) (forward : 0 < delta)
    (count : Nat) :
    (framesFrom delta count run).filter RunFrame.isReported =
      ((List.range count).filter fun index => IsDue delta index).map fun index =>
        frameAfter delta index run := by
  rw [framesFrom, List.filter_map]
  congr 2
  funext index
  exact Bool.eq_iff_iff.mpr
    ((shown.isReported_frame_iff forward index).trans decide_eq_true_iff.symm)

/-- The first frames of a run are those that have low numbers. -/
theorem filter_framesFrom (shown : run.HasShown delta 0) (forward : 0 < delta) {all : Nat}
    (le : count ≤ all) :
    (framesFrom delta all run).filter (fun frame => frame.next.frames ≤ count) =
      framesFrom delta count run := by
  have early : (fun frame : RunFrame Rat => decide (frame.next.frames ≤ count)) ∘
      (fun index => frameAfter delta index run) = fun index => decide (index < count) := by
    funext index
    show decide ((frameAfter delta index run).next.frames ≤ count) = decide (index + 1 ≤ count)
    rw [(shown.behind_frame forward index).frames_eq]
  obtain ⟨more, rfl⟩ := Nat.exists_eq_add_of_le le
  have front : (List.range count).filter (fun index => index < count) = List.range count := by
    simp [List.filter_eq_self]
  have back : ((List.range more).map (count + ·)).filter (fun index => index < count) = [] := by
    simp [List.filter_eq_nil_iff]
  rw [framesFrom, List.filter_map, early, List.range_add, List.filter_append, front, back,
    List.append_nil, framesFrom]

/-! ## Whole runs -/

/-- The whole run of one or two sessions shows as many frames as its duration takes up. -/
theorem play_eq_some (view : Comparison Rat) (forward : 0 < delta) (duration : Rat) :
    play view delta duration =
      some ⟨(framesFrom delta (frameCount delta duration) (start view)).filter RunFrame.isReported,
        frameAfter delta (frameCount delta duration - 1) (start view)⟩ := by
  have enough := frameCount_le_frameLimit forward duration
  have ends := duration_le_frameCount forward duration
  obtain ⟨left, isCount⟩ : ∃ left, frameCount delta duration = left + 1 :=
    Nat.exists_eq_succ_of_ne_zero (by unfold frameCount; omega)
  have goesOn : ∀ index, 0 < index → index ≤ 0 + left → index * delta < duration :=
    fun index positive within => mul_lt_of_lt_frameCount forward positive (by omega)
  rw [isCount] at enough ends ⊢
  rw [play,
    playFrom_eq_some (hasShown_start view delta) forward enough goesOn (by simpa using ends)]
  rfl

end

end

end Run

/-! ## Reports -/

/-- The whole second of a run in which a frame is shown. -/
def RunFrame.second (frame : RunFrame Rat) : Nat := ⌊frame.next.elapsed⌋₊

/-- Which frames of a run are reported, where each of them is a delta after the one before. -/
structure RunSummary.ReportsSeconds (summary : RunSummary Rat) (frames : List (RunFrame Rat))
    (delta : Rat) : Prop where
  reports_eq : summary.reports = frames.filter RunFrame.isReported
  /-- After any number of frames there is a report for each second that has begun, but not more than
  one for each frame. -/
  length_reports : ∀ count ≤ frames.length,
    (summary.reports.filter fun report => report.next.frames ≤ count).length =
      min count (⌊count * delta⌋₊ + 1)
  /-- Frames closer than a second report each second once, and leave none out. -/
  seconds_eq : delta < 1 →
    summary.reports.map RunFrame.second = List.range (summary.last.second + 1)
  /-- The frame that reports a second is the first one in it. -/
  isReported_iff : delta < 1 → ∀ frame ∈ frames, frame.isReported ↔
    ∀ earlier ∈ frames, earlier.next.frames < frame.next.frames → earlier.second < frame.second
  /-- Of frames a second or more apart each is reported once. -/
  reports_all : 1 ≤ delta → summary.reports = frames

namespace Run

section

variable [Planar Rat] {delta : Rat} {run : Run Rat}

/-- The frames of a run report the seconds that it lasts for. -/
theorem HasShown.reportsSeconds (shown : run.HasShown delta 0) (forward : 0 < delta) (left : Nat) :
    RunSummary.ReportsSeconds
      ⟨(framesFrom delta (left + 1) run).filter RunFrame.isReported, frameAfter delta left run⟩
      (framesFrom delta (left + 1) run) delta := by
  have second (index : Nat) :
      (frameAfter delta index run).second = secondAt delta (index + 1) :=
    congrArg Nat.floor (shown.behind_frame forward index).elapsed_eq
  have number (index : Nat) := (shown.behind_frame forward index).frames_eq
  have isDue (index : Nat) := shown.isReported_frame_iff forward index
  constructor
  case reports_eq => rfl
  case length_reports =>
    intro count le
    have within : count ≤ left + 1 := by simpa [framesFrom] using le
    rw [List.filter_comm, filter_framesFrom shown forward within,
      filter_isReported_framesFrom shown forward, List.length_map, length_filter_isDue forward]
    rfl
  case seconds_eq =>
    intro close
    have seconds := map_secondAt_filter_isDue forward close (left + 1)
    rw [reportCount_of_lt forward close left.succ_pos] at seconds
    rw [filter_isReported_framesFrom shown forward, List.map_map, second left, ← seconds]
    exact List.map_congr_left fun index _ => second index
  case isReported_iff =>
    intro close frame member
    obtain ⟨index, within, rfl⟩ := mem_framesFrom.mp member
    rw [isDue, isDue_iff forward close, second]
    constructor
    · intro first earlier isFrame before
      obtain ⟨other, -, rfl⟩ := mem_framesFrom.mp isFrame
      rw [number, number] at before
      rw [second]
      exact first other (by omega)
    · intro first other before
      have earlier := first _ (mem_framesFrom.mpr ⟨other, before.trans within, rfl⟩)
      rw [number, number, second] at earlier
      exact earlier (by omega)
  case reports_all =>
    intro apart
    refine List.filter_eq_self.mpr fun frame member => ?_
    obtain ⟨index, -, rfl⟩ := mem_framesFrom.mp member
    have keepsUp := le_secondAt apart (index + 1)
    have count := reportCount_of_le apart index
    exact (isDue index).mpr (by unfold IsDue; omega)

/-- **The frames and reports of a run.**  In exact arithmetic, with frames that are each a positive
delta after the one before, a run has as many frames as its duration takes up, but at least one.
After any number of them it has made as many reports as seconds have begun, but at most one for each
frame, and each of them shows all sessions.  With frames closer than a second it reports the first
frame of each second, and with frames a second or more apart all of them. -/
theorem play_reports_seconds (view : Comparison Rat) (duration : Rat) (forward : 0 < delta) :
    ∃ summary, play view delta duration = some summary ∧
      let frames := framesFrom delta (max 1 ⌈duration / delta⌉₊) (start view)
      summary.last.next.frames = max 1 ⌈duration / delta⌉₊ ∧
        frames.getLast? = some summary.last ∧
        (∀ index frame, frames[index]? = some frame →
          frame.next.frames = index + 1 ∧ frame.next.elapsed = (index + 1 : Nat) * delta) ∧
        (∀ report ∈ summary.reports, report.shown.optimized.isSome = view.isComparing ∧
          report.next.view.isComparing = view.isComparing) ∧
        summary.ReportsSeconds frames delta := by
  have shown := hasShown_start view delta
  obtain ⟨left, isCount⟩ : ∃ left, max 1 ⌈duration / delta⌉₊ = left + 1 :=
    Nat.exists_eq_succ_of_ne_zero (by omega)
  have played := play_eq_some view forward duration
  rw [show frameCount delta duration = left + 1 from isCount] at played
  rw [isCount]
  refine ⟨_, played, ?_, ?_, ?_, ?_, shown.reportsSeconds forward left⟩
  · exact (shown.behind_frame forward left).frames_eq
  · simp [framesFrom, List.getLast?_range]
  · intro index frame found
    rw [framesFrom, List.getElem?_map, Option.map_eq_some_iff] at found
    obtain ⟨number, isNumber, rfl⟩ := found
    obtain ⟨-, rfl⟩ := List.getElem?_eq_some_iff.mp isNumber
    rw [List.getElem_range]
    have behind := shown.behind_frame forward index
    exact ⟨behind.frames_eq, behind.elapsed_eq⟩
  · intro report member
    obtain ⟨index, -, rfl⟩ := mem_framesFrom.mp (List.mem_of_mem_filter member)
    have before := isComparing_after delta index (start view)
    refine ⟨(isSome_shown_advance _ delta).trans before, ?_⟩
    exact (isComparing_after delta 1 _).trans before

end

/-- Two sessions that are reported in the first, third and fifth frame. -/
theorem play_reports_seconds_five_frames :
    let _ : Planar Rat :=
      ⟨fun a => (a.floor.toNat.sqrt : Nat), fun y x => y / x, 157 / 100, 1 / 4503599627370496⟩
    let store : Store Rat := ⟨[], [], [⟨"vehicle", [⟨9, 0, 0, 1⟩]⟩], [], [], none⟩
    let session : Session Rat := ⟨store, .standard, .standard, .start 1 true, [0]⟩
    let view : Comparison Rat := ⟨session, some session⟩
    (0 : Rat) < 2 / 5 ∧ ∃ summary, play view (2 / 5) 2 = some summary ∧
      summary.last.next.frames = 5 ∧ summary.reports.map RunFrame.second = [0, 1, 2] ∧
      summary.reports.map (fun report => report.next.frames) = [1, 3, 5] := by
  intro _ store session view
  have forward : (0 : Rat) < 2 / 5 := by norm_num
  have computed : (play view (2 / 5) 2).map (fun summary =>
      (summary.last.second, summary.reports.map fun report => report.next.frames)) =
        some (2, [1, 3, 5]) := by
    decide +kernel
  have five : max 1 ⌈(2 : Rat) / (2 / 5)⌉₊ = 5 := by decide +kernel
  obtain ⟨summary, played, count, -, -, -, reports⟩ := play_reports_seconds view 2 forward
  rw [played] at computed
  obtain ⟨second, numbers⟩ := Prod.mk.inj (Option.some.inj computed)
  have seconds := reports.seconds_eq (by norm_num)
  rw [second] at seconds
  exact ⟨forward, summary, played, count.trans five, seconds, numbers⟩

end Run

end JunctionReplay
