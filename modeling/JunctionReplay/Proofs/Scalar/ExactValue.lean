import JunctionReplay.Proofs.Scalar.Order

/-!
# Exact values of machine numbers

A finite machine number is a whole number of steps of `2 ^ -1074`, the least size that one can have.
`exactValue` is that multiple as a rational number.  The steps of a size grow with it, so the order
of machine numbers is the order of their values, and replaying in exact arithmetic starts from
numbers that compare as the recorded ones do.

## Main Definitions

* `Machine.exactValue` — the rational number that a finite machine number stands for.

## Main Statements

* `Machine.exactValue_lt_iff` — numbers compare as their values do.
-/

namespace JunctionReplay.Machine

open Decimal (Binary)

/-! ## Steps -/

/-- The number of least steps from zero to the size of a machine number. -/
def stepsTo (x : Float) : Nat :=
  (Binary.ofFloat x).alignedTo (-1074)

/-- The rational number that a finite machine number stands for. -/
def exactValue (x : Float) : Rat :=
  ((signOf x.toBits.toNat).apply (stepsTo x) : Int) / (Word.count 1074 : Nat)

/-- The number of least steps that the 63 bits of a size stand for. -/
def stepsOfSize (size : Nat) : Nat :=
  if size / Word.count 52 = 0 then size
  else (Word.count 52 + size % Word.count 52) <<< (size / Word.count 52 - 1)

/-- The parts of a machine number, which are those that its size is written with. -/
theorem ofFloat_eq (x : Float) {size : Nat} (isSize : x.toBits.toNat % Word.count 63 = size) :
    Binary.ofFloat x =
      if size / Word.count 52 = 0 then ⟨size % Word.count 52, -1074⟩
      else ⟨Word.count 52 + size % Word.count 52, (size / Word.count 52 : Nat) - 1075⟩ := by
  have scale : ((x.toBits >>> 52) &&& 0x7FF).toNat = size / Word.count 52 := by
    rw [← isSize, UInt64.toNat_and, UInt64.toNat_shiftRight,
      show (52 : UInt64).toNat % 64 = 52 from rfl, show (0x7FF : UInt64).toNat = 2 ^ 11 - 1 from rfl,
      Nat.and_two_pow_sub_one_eq_mod, Nat.shiftRight_eq_div_pow]
    simp only [Word.count, Nat.reduceShiftLeft]
    omega
  have fraction : (x.toBits &&& 0xFFFFFFFFFFFFF).toNat = size % Word.count 52 := by
    rw [← isSize, UInt64.toNat_and, show (0xFFFFFFFFFFFFF : UInt64).toNat = 2 ^ 52 - 1 from rfl,
      Nat.and_two_pow_sub_one_eq_mod]
    simp only [Word.count, Nat.reduceShiftLeft]
    omega
  unfold Binary.ofFloat
  rw [scale, fraction]

theorem stepsTo_eq (x : Float) : stepsTo x = stepsOfSize (x.toBits.toNat % Word.count 63) := by
  have parts := ofFloat_eq x rfl
  generalize x.toBits.toNat % Word.count 63 = size at parts
  unfold stepsTo stepsOfSize
  rw [parts]
  by_cases least : size / Word.count 52 = 0
  · have below : size % Word.count 52 = size := by
      simp only [Word.count, Nat.reduceShiftLeft] at *
      omega
    simp only [if_pos least, Binary.alignedTo, below]
    rfl
  · have exponent : ((size / Word.count 52 : Nat) - 1075 - -1074 : Int).toNat =
        size / Word.count 52 - 1 := by omega
    simp only [if_neg least, Binary.alignedTo, exponent]

section

variable {size size' : Nat}

/-- A size takes fewer steps than the sizes of the next scale. -/
theorem stepsOfSize_lt_of_scale (size : Nat) :
    stepsOfSize size < Word.count 52 <<< (size / Word.count 52) := by
  have rest : size % Word.count 52 < Word.count 52 := Nat.mod_lt _ (by decide)
  unfold stepsOfSize
  by_cases least : size / Word.count 52 = 0
  · rw [if_pos least, least]
    simp only [Word.count, Nat.reduceShiftLeft] at *
    omega
  · rw [if_neg least]
    obtain ⟨scale, isScale⟩ := Nat.exists_eq_succ_of_ne_zero least
    rw [isScale, Nat.succ_sub_one, Nat.shiftLeft_eq, Nat.shiftLeft_eq, Nat.pow_succ]
    have power : 0 < 2 ^ scale := Nat.two_pow_pos scale
    calc (Word.count 52 + size % Word.count 52) * 2 ^ scale
        < (Word.count 52 + Word.count 52) * 2 ^ scale :=
          Nat.mul_lt_mul_of_pos_right (Nat.add_lt_add_left rest _) power
      _ = Word.count 52 * (2 ^ scale * 2) := by
          rw [← Nat.two_mul, Nat.mul_comm 2, Nat.mul_assoc, Nat.mul_comm 2]

/-- A size takes at least as many steps as its scale. -/
theorem le_stepsOfSize_of_scale (notLeast : size / Word.count 52 ≠ 0) :
    Word.count 52 <<< (size / Word.count 52 - 1) ≤ stepsOfSize size := by
  rw [stepsOfSize, if_neg notLeast, Nat.shiftLeft_eq, Nat.shiftLeft_eq]
  exact Nat.mul_le_mul_right _ (Nat.le_add_right _ _)

/-- The steps grow with the size. -/
theorem stepsOfSize_lt (lt : size < size') : stepsOfSize size < stepsOfSize size' := by
  have scales : size / Word.count 52 ≤ size' / Word.count 52 :=
    Nat.div_le_div_right (Nat.le_of_lt lt)
  -- Either the scale grows, or it stays the same and the rest grows.
  rcases Nat.lt_or_eq_of_le scales with below | same
  · have notLeast : size' / Word.count 52 ≠ 0 := Nat.ne_zero_of_lt below
    have shifts : Word.count 52 <<< (size / Word.count 52) ≤
        Word.count 52 <<< (size' / Word.count 52 - 1) := by
      rw [Nat.shiftLeft_eq, Nat.shiftLeft_eq]
      exact Nat.mul_le_mul_left _ (Nat.pow_le_pow_right (by decide) (Nat.le_sub_one_of_lt below))
    calc stepsOfSize size
        < Word.count 52 <<< (size / Word.count 52) := stepsOfSize_lt_of_scale size
      _ ≤ Word.count 52 <<< (size' / Word.count 52 - 1) := shifts
      _ ≤ stepsOfSize size' := le_stepsOfSize_of_scale notLeast
  · unfold stepsOfSize
    rw [← same]
    have rests : size % Word.count 52 < size' % Word.count 52 := by
      have split := Nat.div_add_mod size (Word.count 52)
      have split' := Nat.div_add_mod size' (Word.count 52)
      rw [← same] at split'
      omega
    split
    · exact lt
    · rw [Nat.shiftLeft_eq, Nat.shiftLeft_eq]
      exact Nat.mul_lt_mul_of_pos_right (Nat.add_lt_add_left rests _) (Nat.two_pow_pos _)

end

/-! ## Values -/

/-- The number of steps at a rank, with its sign. -/
def stepsAt (rank : Int) : Int :=
  if rank < 0 then -stepsOfSize rank.natAbs else stepsOfSize rank.natAbs

theorem stepsAt_lt {lower upper : Int} (lt : lower < upper) : stepsAt lower < stepsAt upper := by
  unfold stepsAt
  by_cases upperNegative : upper < 0
  · have lowerNegative : lower < 0 := by omega
    have sizes : stepsOfSize upper.natAbs < stepsOfSize lower.natAbs :=
      stepsOfSize_lt (by omega)
    rw [if_pos lowerNegative, if_pos upperNegative]
    omega
  · by_cases lowerNegative : lower < 0
    · have positive : stepsOfSize 0 < stepsOfSize lower.natAbs := stepsOfSize_lt (by omega)
      rw [if_pos lowerNegative, if_neg upperNegative]
      omega
    · have sizes : stepsOfSize lower.natAbs < stepsOfSize upper.natAbs :=
        stepsOfSize_lt (by omega)
      rw [if_neg lowerNegative, if_neg upperNegative]
      omega

/-- Ranks compare as their steps do. -/
theorem stepsAt_lt_iff {lower upper : Int} : stepsAt lower < stepsAt upper ↔ lower < upper := by
  refine ⟨fun lt => ?_, stepsAt_lt⟩
  rcases Int.lt_trichotomy lower upper with below | rfl | above
  · exact below
  · exact absurd lt (Int.lt_irrefl _)
  · exact absurd lt (Int.lt_asymm (stepsAt_lt above))

theorem exactValue_eq (x : Float) :
    exactValue x = stepsAt (rank x) / (Word.count 1074 : Nat) := by
  have steps : (signOf x.toBits.toNat).apply (stepsTo x) = stepsAt (rank x) := by
    rw [stepsTo_eq, rank, stepsAt]
    generalize x.toBits.toNat % Word.count 63 = size
    cases signOf x.toBits.toNat with
    | positive =>
        have notNegative : ¬ (size : Int) < 0 := by omega
        exact (if_neg notNegative).symm
    | negative =>
        cases size with
        | zero => rfl
        | succ size =>
            have negative : -((size + 1 : Nat) : Int) < 0 := by omega
            exact (if_pos negative).symm
  rw [exactValue, steps]

theorem exactValue_lt_iff_rank_lt {x y : Float} :
    exactValue x < exactValue y ↔ rank x < rank y := by
  have positive : (0 : Rat) < (Word.count 1074 : Nat) := Rat.natCast_pos.mpr (by decide)
  rw [exactValue_eq, exactValue_eq, Rat.div_lt_iff positive,
    Rat.div_mul_cancel (Rat.ne_of_gt positive), Rat.intCast_lt_intCast, stepsAt_lt_iff]

/-- Numbers compare as their values do. -/
theorem exactValue_lt_iff {x y : Float} (numberX : Scalar.IsNumber x)
    (numberY : Scalar.IsNumber y) : exactValue x < exactValue y ↔ x < y := by
  rw [exactValue_lt_iff_rank_lt, lt_iff]
  exact (and_iff_right ⟨isNumber_iff.mp numberX, isNumber_iff.mp numberY⟩).symm

theorem exactValue_lt {x y : Float} (lt : x < y) : exactValue x < exactValue y := by
  have numbers := Scalar.isNumber_of_lt lt
  exact (exactValue_lt_iff numbers.1 numbers.2).mpr lt

theorem exactValue_le {x y : Float} (le : x ≤ y) : exactValue x ≤ exactValue y := by
  have numbers := OrderedScalar.isNumber_of_le le
  refine Rat.not_lt.mp fun lt => ?_
  exact Scalar.not_lt_of_le le ((exactValue_lt_iff numbers.2 numbers.1).mp lt)

theorem exactValue_zero : exactValue 0.0 = 0 := by decide +kernel

theorem exactValue_pos {x : Float} (positive : 0.0 < x) : 0 < exactValue x := by
  rw [← exactValue_zero]
  exact exactValue_lt positive

example : exactValue (-0.375) = -3 / 8 := by decide +kernel

end JunctionReplay.Machine
