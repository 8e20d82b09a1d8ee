import JunctionReplay.Proofs.Scalar.Order
import JunctionReplay.Trajectory.Normalize

/-!
# The two orders of times

Samples are sorted by `orderKey`, which is injective, and told apart by equality of numbers, for
which the two zeros are the same.  Both are readings of the rank: the keys of numbers with a
positive sign are their ranks, those of numbers with a negative sign lie one below.  So keys never
disagree with ranks, and numbers of one rank have one key unless they are the two zeros.

## Main Statements

* `orderKey_injective` — no two numbers share a key.
* `rank_le_of_orderKey_le` — the order of keys refines that of ranks.
* `eq_or_zeros_of_rank_eq` — numbers of one rank are the same or the two zeros.
* `Trajectory.isOrdered_iff` — the test whether samples are in order.
-/

namespace JunctionReplay

open Machine (rank HasRank)

/-! ## Keys and ranks -/

section

variable {x y : Float}

theorem orderKey_of_positive (positive : x.toBits.toNat < Word.count 63) :
    orderKey x = rank x := by
  simp only [orderKey, rank, Machine.signOf, if_pos positive, Float.Model.UnpackedFloat.Sign.apply]
  rw [Nat.mod_eq_of_lt positive]

theorem orderKey_of_negative (negative : ¬ x.toBits.toNat < Word.count 63) :
    orderKey x = rank x - 1 := by
  have bound : x.toBits.toNat < Word.count 64 := x.toBits.toNat_lt
  simp only [orderKey, rank, Machine.signOf, if_neg negative, Float.Model.UnpackedFloat.Sign.apply]
  simp only [Word.count, Nat.reduceShiftLeft] at *
  omega

/-- The key of a number is its rank or, for a number that is not above zero, one less. -/
theorem orderKey_cases (x : Float) :
    orderKey x = rank x ∧ 0 ≤ rank x ∨ orderKey x = rank x - 1 ∧ rank x ≤ 0 := by
  by_cases positive : x.toBits.toNat < Word.count 63
  · have key := orderKey_of_positive positive
    refine Or.inl ⟨key, ?_⟩
    rw [← key, orderKey]
    simp only [if_pos positive]
    exact Int.natCast_nonneg _
  · have key := orderKey_of_negative positive
    refine Or.inr ⟨key, ?_⟩
    have below : orderKey x < 0 := by
      simp only [orderKey, if_neg positive]
      omega
    omega

/-- No two numbers share a key. -/
theorem orderKey_injective (same : orderKey x = orderKey y) : x = y := by
  have bits : x.toBits.toNat = y.toBits.toNat := by
    by_cases positiveX : x.toBits.toNat < Word.count 63
    · by_cases positiveY : y.toBits.toNat < Word.count 63
      · simp only [orderKey, if_pos positiveX, if_pos positiveY] at same
        omega
      · simp only [orderKey, if_pos positiveX, if_neg positiveY] at same
        omega
    · by_cases positiveY : y.toBits.toNat < Word.count 63
      · simp only [orderKey, if_neg positiveX, if_pos positiveY] at same
        omega
      · simp only [orderKey, if_neg positiveX, if_neg positiveY] at same
        omega
  obtain ⟨⟨bitsX, _⟩⟩ := x
  obtain ⟨⟨bitsY, _⟩⟩ := y
  obtain rfl : bitsX = bitsY := UInt64.toNat_inj.mp bits
  rfl

theorem rank_le_of_orderKey_le (le : orderKey x ≤ orderKey y) : rank x ≤ rank y := by
  rcases orderKey_cases x with keyX | keyX <;> rcases orderKey_cases y with keyY | keyY <;> omega

/-- Numbers of one rank are the same, or they are the two zeros. -/
theorem eq_or_zeros_of_rank_eq (same : rank x = rank y) :
    x = y ∨ x = -0.0 ∧ y = 0.0 ∨ x = 0.0 ∧ y = -0.0 := by
  have negativeZero : orderKey (-0.0) = -1 := by decide
  have positiveZero : orderKey 0.0 = 0 := by decide
  rcases orderKey_cases x with keyX | keyX <;> rcases orderKey_cases y with keyY | keyY
  · exact Or.inl (orderKey_injective (by omega))
  · have zeroX : orderKey x = orderKey 0.0 := by omega
    have zeroY : orderKey y = orderKey (-0.0) := by omega
    exact Or.inr (Or.inr ⟨orderKey_injective zeroX, orderKey_injective zeroY⟩)
  · have zeroX : orderKey x = orderKey (-0.0) := by omega
    have zeroY : orderKey y = orderKey 0.0 := by omega
    exact Or.inr (Or.inl ⟨orderKey_injective zeroX, orderKey_injective zeroY⟩)
  · exact Or.inl (orderKey_injective (by omega))

end

/-! ## Samples in order -/

namespace Trajectory

/-- All times of samples are numbers. -/
def AllRanked (samples : List (Sample Float)) : Prop :=
  ∀ sample ∈ samples, HasRank sample.time

theorem allRanked_timed (samples : List (Sample Float)) : AllRanked (timed samples) := by
  intro sample member
  have finite := (List.mem_filter.mp member).2
  exact Machine.hasRank_of_isFinite finite

theorem mem_timed {samples : List (Sample Float)} {sample : Sample Float} :
    sample ∈ timed samples ↔ sample ∈ samples ∧ sample.time.isFinite := by
  rw [timed, List.mem_filter]

section

variable {first second : Sample Float} {samples : List (Sample Float)}

theorem lt_iff_of_ranked (rankedFirst : HasRank first.time) (rankedSecond : HasRank second.time) :
    first.time < second.time ↔ rank first.time < rank second.time := by
  rw [Machine.lt_iff, and_iff_right ⟨rankedFirst, rankedSecond⟩]

theorem beq_iff_of_ranked (rankedFirst : HasRank first.time) (rankedSecond : HasRank second.time) :
    first.time == second.time ↔ rank first.time = rank second.time := by
  rw [Machine.beq_iff, and_iff_right ⟨rankedFirst, rankedSecond⟩]

/-- Strictly increasing times are strictly increasing ranks. -/
theorem pairwise_lt_iff (ranked : AllRanked samples) :
    samples.Pairwise (fun first second => first.time < second.time) ↔
      samples.Pairwise (fun first second => rank first.time < rank second.time) := by
  constructor
  · intro increasing
    exact increasing.imp_of_mem fun {first second} memberFirst memberSecond =>
      (lt_iff_of_ranked (ranked first memberFirst) (ranked second memberSecond)).mp
  · intro increasing
    exact increasing.imp_of_mem fun {first second} memberFirst memberSecond =>
      (lt_iff_of_ranked (ranked first memberFirst) (ranked second memberSecond)).mpr

/-- Samples are in order exactly if their times are strictly increasing. -/
theorem isOrdered_iff (ranked : AllRanked samples) :
    isOrdered samples ↔
      samples.Pairwise fun first second => rank first.time < rank second.time := by
  induction samples with
  | nil => simp [isOrdered]
  | cons first rest ih =>
      cases rest with
      | nil => simp [isOrdered]
      | cons second rest =>
          have rankedRest : AllRanked (second :: rest) := fun sample member =>
            ranked sample (List.mem_cons_of_mem _ member)
          have rankedFirst := ranked first List.mem_cons_self
          have rankedSecond := rankedRest second List.mem_cons_self
          have notLe : ¬ second.time ≤ first.time ↔ rank first.time < rank second.time := by
            rw [Machine.le_iff, and_iff_right ⟨rankedSecond, rankedFirst⟩, Int.not_le]
          have unfolded : isOrdered (first :: second :: rest) ↔
              ¬ second.time ≤ first.time ∧ isOrdered (second :: rest) := by
            simp [isOrdered]
          rw [unfolded, notLe, ih rankedRest, List.pairwise_cons (l := second :: rest)]
          refine and_congr_left fun increasing => ⟨fun lt sample member => ?_, fun all => ?_⟩
          · rcases List.mem_cons.mp member with rfl | member
            · exact lt
            · exact Int.lt_trans lt ((List.pairwise_cons.mp increasing).1 sample member)
          · exact all second List.mem_cons_self

end

end Trajectory

end JunctionReplay
