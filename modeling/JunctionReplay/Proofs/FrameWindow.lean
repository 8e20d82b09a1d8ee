import Mathlib.Algebra.BigOperators.Group.List.Basic
import Mathlib.Data.List.DropRight
import JunctionReplay.FrameWindow
import JunctionReplay.Proofs.Scalar.WholeNumbers

/-!
# The window of the last timings

A window that is full loses its oldest timing before it takes in a new one.  So it holds the last
timings at any time, as many as it is for, and all of them until there are that many.

Its means are computed with words: a sum is kept only if its seconds can be counted, and the size of
the window is cut to 32 bits before it divides.  Neither matters to a window that is for fewer
timings than 32 bits can count.  It holds between one timing and that many from the first one on,
and so what divides is its size, which is not zero.

## Main Definitions

* `FrameWindow.HoldsLast` — a window holds the last of the timings that were entered.

## Main Statements

* `FrameWindow.holdsLast_foldl` — what entering timings one by one leaves.
* `FrameWindow.mean_eq_average` — the mean of a window whose size and sum words can keep.
* `FrameWindow.inSeconds_pos` — a time that is not zero is not zero in seconds.
* `FrameWindow.mean_of_last_timings` — the means after any timings.
-/

namespace JunctionReplay.FrameWindow

variable {window : FrameWindow} {capacity nanoseconds : Nat} {records : List FrameTiming}
  {timing : FrameTiming} {part : FrameTiming → Nat}

/-! ## What a window holds -/

/-- A window holds the last of the timings that were entered, as many as it is for. -/
structure HoldsLast (window : FrameWindow) (capacity : Nat) (records : List FrameTiming) :
    Prop where
  capacity_eq : window.capacity = capacity
  timings_eq : window.timings = records.rtake capacity

theorem HoldsLast.length_timings (holds : window.HoldsLast capacity records) :
    window.timings.length = min records.length capacity := by
  rw [holds.timings_eq, List.rtake, List.length_drop]
  omega

theorem holdsLast_empty (capacity : Nat) : (empty capacity).HoldsLast (max capacity 1) [] :=
  ⟨rfl, (List.rtake_nil _).symm⟩

/-- A full window loses the oldest timing, and then it has room for the new one. -/
theorem HoldsLast.record (holds : window.HoldsLast capacity records) (positive : 0 < capacity)
    (timing : FrameTiming) : (window.record timing).HoldsLast capacity (records ++ [timing]) := by
  obtain ⟨room, rfl⟩ : ∃ room, capacity = room + 1 := ⟨capacity - 1, by omega⟩
  refine ⟨holds.capacity_eq, ?_⟩
  show (if window.capacity ≤ window.timings.length then window.timings.drop 1
    else window.timings) ++ [timing] = _
  rw [List.rtake_concat_succ, holds.capacity_eq, holds.length_timings, holds.timings_eq]
  congr 1
  simp only [List.rtake]
  by_cases full : room + 1 ≤ min records.length (room + 1)
  · have oldest : records.length - (room + 1) + 1 = records.length - room := by omega
    rw [if_pos full, List.drop_drop, oldest]
  · have all : records.length - (room + 1) = 0 := by omega
    have none : records.length - room = 0 := by omega
    rw [if_neg full, all, none]

/-- Entering timings one by one leaves the last of them. -/
theorem holdsLast_foldl (capacity : Nat) (records : List FrameTiming) :
    (records.foldl FrameWindow.record (empty capacity)).HoldsLast (max capacity 1) records := by
  induction records using List.reverseRecOn with
  | nil => exact holdsLast_empty capacity
  | append_singleton records timing ih =>
      rw [List.foldl_append]
      exact ih.record (by omega) timing

/-! ## Means -/

theorem total_eq (window : FrameWindow) (part : FrameTiming → Nat) :
    window.total part = (window.timings.map part).sum := by
  rw [total, List.sum_eq_foldl, List.foldl_map]

theorem average_of_nil (empty : window.timings = []) (part : FrameTiming → Nat) :
    window.average part = 0 := by
  simp [average, empty]

theorem average_of_ne_nil (nonempty : window.timings ≠ []) (part : FrameTiming → Nat) :
    window.average part = (window.timings.map part).sum / window.timings.length := by
  simp [average, nonempty, total_eq]

/-- The size of a window divides as it is while a word of 32 bits can keep it. -/
theorem divide_eq_ok {time timings : Nat} (positive : 0 < timings)
    (small : timings < Word.count 32) : divide time timings = .ok (time / timings) := by
  have kept : timings % Word.count 32 = timings := Nat.mod_eq_of_lt small
  simp only [divide, kept, if_neg positive.ne']

/-- Words do not matter to the mean of a window whose size and sum they can keep. -/
theorem mean_eq_average (small : window.timings.length < Word.count 32)
    (fits : (window.timings.map part).sum < second * Word.count 64) :
    window.mean part = .ok (window.average part) := by
  rw [← total_eq] at fits
  rw [mean, average]
  split
  next => rfl
  next notEmpty =>
    have nonempty : 0 < window.timings.length := by
      simpa [List.isEmpty_iff, List.length_pos_iff] using notEmpty
    rw [sum, if_pos fits]
    exact divide_eq_ok nonempty small

/-! ## Times in seconds -/

/-- A time that is not zero is not zero in seconds, since whole seconds are at least one and a part
of a second is at least one nanosecond. -/
theorem inSeconds_pos (nonzero : nanoseconds ≠ 0) : (0 : Float) < inSeconds nanoseconds := by
  have positive : (0 : Float) < Float.ofNat second := by decide +kernel
  have finite : (Float.ofNat second).isFinite := by decide +kernel
  have nonneg : 0 ≤ Float.ofNat (nanoseconds / second) := Machine.ofNat_nonneg _
  have nothing : (0 : Float) ≤ 0 / Float.ofNat second := by decide +kernel
  have rest : 0 ≤ Float.ofNat (nanoseconds % second) / Float.ofNat second :=
    OrderedScalar.le_trans nothing <| Machine.quotient_le_quotient positive finite
      (show (0 : Float) ≤ 0 by decide +kernel) (Machine.ofNat_nonneg (nanoseconds % second))
  show 0 < Float.ofNat (nanoseconds / second) +
    Float.ofNat (nanoseconds % second) / Float.ofNat second
  rcases Nat.eq_zero_or_pos (nanoseconds / second) with none | whole
  · have part : 0 < nanoseconds % second := by
      have split := Nat.div_add_mod nanoseconds second
      rw [none] at split
      omega
    have least := Machine.quotient_le_quotient positive finite Machine.nonneg_one
      (Machine.one_le_ofNat part)
    have nanosecond : 0 < (1 : Float) / Float.ofNat second := by decide +kernel
    have above := OrderedScalar.le_trans least (Machine.le_sum nonneg rest).2
    exact Scalar.lt_of_lt_of_le nanosecond above
  · have one : (0 : Float) < 1 := by decide +kernel
    have above := OrderedScalar.le_trans (Machine.one_le_ofNat whole) (Machine.le_sum nonneg rest).1
    exact Scalar.lt_of_lt_of_le one above

/-! ## All timings -/

/-- **The means of the last timings.**  A window for fewer timings than 32 bits can count, at least
for one, can be created.  After any timings it holds the last of them in their order, as many as it
is for.  If the sums of these can be held, the means have results: zero before the first timing, and
then the sums divided by the size of the window, which is not zero, rounded down to whole
nanoseconds.  The number of frames in a second, too, is found without a division by zero. -/
theorem mean_of_last_timings (small : capacity < Word.count 32) (records : List FrameTiming)
    (fits : ∀ part ∈ [FrameTiming.frame, FrameTiming.resolve],
      ((records.rtake (max capacity 1)).map part).sum < second * Word.count 64) :
    ∃ start, create capacity = .ok start ∧
      let window := records.foldl FrameWindow.record start
      window.timings = records.rtake (max capacity 1) ∧
        window.timings.length = min records.length (max capacity 1) ∧
        (records = [] → window.meanFrame = .ok 0 ∧ window.meanResolve = .ok 0) ∧
        (records ≠ [] → window.timings.length ≠ 0 ∧
          window.meanFrame =
            .ok ((window.timings.map FrameTiming.frame).sum / window.timings.length) ∧
          window.meanResolve =
            .ok ((window.timings.map FrameTiming.resolve).sum / window.timings.length)) ∧
        ∃ frameTime, window.meanFrame = .ok frameTime ∧
          (window.meanPace : Except MeanFault Float) =
            .ok (if frameTime = 0 then 0 else 1 / inSeconds frameTime) ∧
          (frameTime ≠ 0 → (0 : Float) < inSeconds frameTime) := by
  have count : Word.count 32 = 4294967296 := by decide
  have created : create capacity = .ok (empty capacity) := by
    refine if_pos ?_
    simp only [timingBytes, Word.count, Nat.reduceShiftLeft] at small ⊢
    omega
  refine ⟨empty capacity, created, ?_⟩
  intro window
  have holds : window.HoldsLast (max capacity 1) records := holdsLast_foldl capacity records
  have length := holds.length_timings
  rw [← holds.timings_eq] at fits
  have isMean (part : FrameTiming → Nat)
      (isPart : part ∈ [FrameTiming.frame, FrameTiming.resolve]) :
      window.mean part = .ok (window.average part) :=
    mean_eq_average (by omega) (fits part isPart)
  have frame : window.meanFrame = .ok window.averageFrame := isMean _ (by simp)
  have resolve : window.meanResolve = .ok window.averageResolve := isMean _ (by simp)
  refine ⟨holds.timings_eq, length, ?_, ?_, window.averageFrame, frame, ?_, inSeconds_pos⟩
  · rintro rfl
    have unused : window.timings = [] := holds.timings_eq.trans (List.rtake_nil _)
    rw [frame, resolve, averageFrame, averageResolve, average_of_nil unused, average_of_nil unused]
    exact ⟨rfl, rfl⟩
  · intro entered
    have positive : 0 < records.length := List.length_pos_of_ne_nil entered
    have nonempty : window.timings ≠ [] := List.ne_nil_of_length_pos (by omega)
    rw [frame, resolve, averageFrame, averageResolve, average_of_ne_nil nonempty,
      average_of_ne_nil nonempty]
    exact ⟨by omega, rfl, rfl⟩
  · rw [meanPace, frame]
    rfl

/-- Three timings in a window for two of them, with means that are rounded down. -/
theorem mean_of_last_timings_three_timings :
    let first : FrameTiming := ⟨90, 80⟩
    let second : FrameTiming := ⟨20, 3⟩
    let third : FrameTiming := ⟨25, 4⟩
    let start : FrameWindow := ⟨2, []⟩
    2 < Word.count 32 ∧
      (∀ part ∈ [FrameTiming.frame, FrameTiming.resolve],
        (([first, second, third].rtake (max 2 1)).map part).sum <
          FrameWindow.second * Word.count 64) ∧
      create 2 = .ok start ∧
      let window := [first, second, third].foldl FrameWindow.record start
      window.timings = [second, third] ∧ window.meanFrame = .ok 22 ∧
        window.meanResolve = .ok 3 ∧ (0 : Float) < inSeconds 22 := by
  intro first second third start
  let window := [first, second, third].foldl FrameWindow.record start
  have fits : ∀ part ∈ [FrameTiming.frame, FrameTiming.resolve],
      (([first, second, third].rtake (max 2 1)).map part).sum <
        FrameWindow.second * Word.count 64 := by
    rintro part isPart
    rcases List.mem_pair.mp isPart with rfl | rfl <;> decide +kernel
  obtain ⟨begun, created, holds, -, -, means, frameTime, isMean, -, positive⟩ :=
    mean_of_last_timings (by decide) [first, second, third] fits
  obtain rfl : start = begun := Except.ok.inj created
  obtain ⟨-, frame, resolve⟩ := means (by simp)
  have frame : window.meanFrame = .ok 22 := frame.trans (by decide +kernel)
  have resolve : window.meanResolve = .ok 3 := resolve.trans (by decide +kernel)
  obtain rfl : frameTime = 22 := Except.ok.inj (isMean.symm.trans frame)
  exact ⟨by decide, fits, created, holds, frame, resolve, positive (by decide)⟩

end JunctionReplay.FrameWindow
