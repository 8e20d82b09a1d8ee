import Mathlib.Algebra.Order.Field.Power
import Mathlib.Data.Nat.Cast.Order.Field
import Mathlib.Tactic.FieldSimp
import Mathlib.Tactic.Linarith
import Mathlib.Tactic.NormNum
import Mathlib.Tactic.Positivity
import Mathlib.Tactic.Ring
import JunctionReplay.Proofs.Scalar.MachineOrder

/-!
# Rounding to machine numbers

The result of an operation on machine numbers is the machine number nearest to the exact result.
The exact result is cut off at the last place that a machine number of its size has, with two more
bits that tell which part of a unit was cut off, and these decide whether it is rounded up.

What is cut off comes from two sides, shifting and division, and is rounded in one place.  So the
relation `Reads` between a mantissa with its two bits and an exact number is what both sides
establish, and `IsNearestSize` is what rounding makes of it.  Of the nearest size only one thing is
needed here, that it grows with the exact number; sizes are those by which `Machine.rank` orders
machine numbers.

## Main Definitions

* `Machine.Reads` — what a mantissa with its two bits says of the number that it is cut from.
* `Machine.IsScale` — the exponent of the last place that is kept of a number.
* `Machine.IsNearestSize` — the size of the machine number nearest to a number.

## Main Statements

* `Machine.IsNearestSize.mono` — rounding is monotone.
* `Machine.isNearestSize_finiteSize` — a machine number is the nearest one to itself.
-/

namespace JunctionReplay.Machine

open Float.Model (Format totalExponent UnpackedFloat)
open Float.Model.UnpackedFloat

/-! ## Mantissas with the two bits behind them -/

/-- What a mantissa with the two bits behind it says of the number that it is cut from: whether
anything was cut off, and on which side of one half that lies. -/
def Reads (em : ExtendedMantissa) (y : Rat) : Prop :=
  match em.roundBit, em.stickyBit with
  | false, false => y = em.mantissa
  | false, true => em.mantissa < y ∧ y < em.mantissa + 1 / 2
  | true, false => y = em.mantissa + 1 / 2
  | true, true => em.mantissa + 1 / 2 < y ∧ y < em.mantissa + 1

section

variable {em em' : ExtendedMantissa} {y y' : Rat}

theorem Reads.mantissa_le (reads : Reads em y) : em.mantissa ≤ y := by
  obtain ⟨mantissa, round, sticky⟩ := em
  cases round <;> cases sticky <;> simp only [Reads] at reads ⊢ <;> linarith

theorem Reads.lt_mantissa_add_one (reads : Reads em y) : y < em.mantissa + 1 := by
  obtain ⟨mantissa, round, sticky⟩ := em
  cases round <;> cases sticky <;> simp only [Reads] at reads ⊢ <;> linarith

/-- The bit that is shifted out takes the place of the first of the two bits. -/
theorem Reads.shiftRightOne (reads : Reads em y) : Reads em.shiftRightOne (y / 2) := by
  obtain ⟨mantissa, round, sticky⟩ := em
  have halves : ((mantissa % 2 : Nat) : Rat) + 2 * ((mantissa / 2 : Nat) : Rat) = mantissa := by
    exact_mod_cast Nat.mod_add_div mantissa 2
  rcases Nat.mod_two_eq_zero_or_one mantissa with even | odd
  · have bit : (mantissa % 2 != 0) = false := by rw [even]; rfl
    rw [even, Nat.cast_zero] at halves
    cases round <;> cases sticky <;>
      simp only [Reads, ExtendedMantissa.shiftRightOne, bit, Bool.or_true,
        Bool.or_false] at reads ⊢ <;>
      first | linarith | exact ⟨by linarith, by linarith⟩
  · have bit : (mantissa % 2 != 0) = true := by rw [odd]; rfl
    rw [odd, Nat.cast_one] at halves
    cases round <;> cases sticky <;>
      simp only [Reads, ExtendedMantissa.shiftRightOne, bit, Bool.or_true,
        Bool.or_false] at reads ⊢ <;>
      first | linarith | exact ⟨by linarith, by linarith⟩

theorem Reads.shiftRight (reads : Reads em y) (places : Nat) :
    Reads (em >>> places) (y / 2 ^ places) := by
  change Reads (places.repeat ExtendedMantissa.shiftRightOne em) (y / 2 ^ places)
  induction places with
  | zero => simpa [Nat.repeat] using reads
  | succ places ih =>
      rw [Nat.repeat, pow_succ, ← div_div]
      exact ih.shiftRightOne

/-! ## Rounding of mantissas -/

theorem roundedMantissa_bounds (em : ExtendedMantissa) :
    em.mantissa ≤ em.roundedMantissa ∧ em.roundedMantissa ≤ em.mantissa + 1 := by
  obtain ⟨mantissa, round, sticky⟩ := em
  cases round <;> cases sticky <;>
    simp only [ExtendedMantissa.roundedMantissa, ExtendedMantissa.accuracy,
      Accuracy.roundToNearestEven] <;> omega

/-- Rounding a mantissa is monotone. -/
theorem Reads.roundedMantissa_le (reads : Reads em y) (reads' : Reads em' y') (le : y ≤ y') :
    em.roundedMantissa ≤ em'.roundedMantissa := by
  have lower := reads.mantissa_le
  have upper := reads'.lt_mantissa_add_one
  have mantissas : em.mantissa ≤ em'.mantissa := by
    have below : (em.mantissa : Rat) < em'.mantissa + 1 := by linarith
    exact Nat.lt_succ_iff.mp (by exact_mod_cast below)
  rcases Nat.lt_or_eq_of_le mantissas with below | same
  · -- Rounding does not go beyond the next mantissa.
    exact le_trans (roundedMantissa_bounds em).2 (le_trans below (roundedMantissa_bounds em').1)
  · obtain ⟨mantissa, round, sticky⟩ := em
    obtain ⟨mantissa', round', sticky'⟩ := em'
    obtain rfl : mantissa = mantissa' := same
    cases round <;> cases sticky <;> cases round' <;> cases sticky' <;>
      simp only [Reads, ExtendedMantissa.roundedMantissa, ExtendedMantissa.accuracy,
        Accuracy.roundToNearestEven] at reads reads' ⊢ <;>
      first | omega | (exfalso; linarith)

end

/-- A whole mantissa reads as itself. -/
theorem reads_exact (mantissa : Nat) :
    Reads (.ofMantissaAndAccuracy mantissa .exact) mantissa := by
  simp only [ExtendedMantissa.ofMantissaAndAccuracy, Reads]

/-- A mantissa with what is left of a division reads as that much beyond the mantissa. -/
theorem reads_accuracyOfFraction (mantissa : Nat) {remainder denominator : Nat}
    (proper : remainder < denominator) :
    Reads (.ofMantissaAndAccuracy mantissa (accuracyOfFraction remainder denominator))
      (mantissa + remainder / denominator) := by
  have positive : (0 : Rat) < denominator := by exact_mod_cast Nat.zero_lt_of_lt proper
  unfold accuracyOfFraction
  by_cases none : remainder = 0
  · simp [none, ExtendedMantissa.ofMantissaAndAccuracy, Reads]
  · have fractionPos : 0 < (remainder : Rat) / denominator :=
      div_pos (by exact_mod_cast Nat.pos_of_ne_zero none) positive
    have fractionLt : (remainder : Rat) / denominator < 1 :=
      (div_lt_one positive).mpr (by exact_mod_cast proper)
    rw [if_neg none]
    rcases Nat.lt_trichotomy (2 * remainder) denominator with below | half | above
    · have belowHalf : (remainder : Rat) / denominator < 1 / 2 := by
        rw [div_lt_iff₀ positive]
        have cast : (2 * remainder : Rat) < denominator := by exact_mod_cast below
        linarith
      rw [Nat.compare_eq_lt.mpr below]
      simp only [ExtendedMantissa.ofMantissaAndAccuracy, Reads]
      exact ⟨by linarith, by linarith⟩
    · have isHalf : (remainder : Rat) / denominator = 1 / 2 := by
        rw [div_eq_iff positive.ne']
        have cast : (2 * remainder : Rat) = denominator := by exact_mod_cast half
        linarith
      rw [Nat.compare_eq_eq.mpr half]
      simp only [ExtendedMantissa.ofMantissaAndAccuracy, Reads]
      linarith
    · have aboveHalf : 1 / 2 < (remainder : Rat) / denominator := by
        rw [lt_div_iff₀ positive]
        have cast : (denominator : Rat) < 2 * remainder := by exact_mod_cast above
        linarith
      rw [Nat.compare_eq_gt.mpr above]
      simp only [ExtendedMantissa.ofMantissaAndAccuracy, Reads]
      exact ⟨by linarith, by linarith⟩

/-- A quotient with the remainder of its division reads as the fraction. -/
theorem reads_fraction (numerator : Nat) {denominator : Nat} (positive : 0 < denominator) :
    Reads (.ofMantissaAndAccuracy (numerator / denominator)
      (accuracyOfFraction (numerator % denominator) denominator))
      (numerator / denominator) := by
  have notZero : (denominator : Rat) ≠ 0 := by exact_mod_cast positive.ne'
  have parts : ((numerator % denominator : Nat) : Rat) +
      denominator * ((numerator / denominator : Nat) : Rat) = numerator := by
    exact_mod_cast Nat.mod_add_div numerator denominator
  have fraction : (numerator : Rat) / denominator =
      ((numerator / denominator : Nat) : Rat) +
        ((numerator % denominator : Nat) : Rat) / denominator := by
    rw [← parts]
    field_simp
    ring
  rw [fraction]
  exact reads_accuracyOfFraction _ (Nat.mod_lt numerator positive)

/-! ## Nearest sizes -/

theorem natCast_count (places : Nat) : (Word.count places : Rat) = 2 ^ places := by
  rw [Word.count, Nat.shiftLeft_eq, one_mul, Nat.cast_pow, Nat.cast_ofNat]

/-- A number of places counts for a power of two. -/
theorem two_zpow_add (exponent : Int) (places : Nat) :
    (2 : Rat) ^ (exponent + places) = Word.count places * 2 ^ exponent := by
  rw [zpow_add₀ two_ne_zero, zpow_natCast, natCast_count, mul_comm]

/-- The exponent of the last place that is kept of a number: with it the number has 53 places, or
fewer at the least exponent. -/
structure IsScale (x : Rat) (scale : Int) : Prop where
  least_le : -1074 ≤ scale
  lt : x < 2 ^ (scale + 53)
  isLeast_or_le : scale = -1074 ∨ 2 ^ (scale + 52) ≤ x

/-- The size of the machine number nearest to a number, which is infinite from the middle between
the greatest finite size and the next one on. -/
def IsNearestSize (x : Rat) (size : Int) : Prop :=
  ∃ scale em, IsScale x scale ∧ Reads em (x / 2 ^ scale) ∧
    size = min (finiteSize em.roundedMantissa scale) infiniteSize

section

variable {x x' : Rat} {scale scale' size size' : Int} {em em' : ExtendedMantissa}

theorem IsScale.mono (isScale : IsScale x scale) (isScale' : IsScale x' scale') (le : x ≤ x') :
    scale ≤ scale' := by
  rcases isScale.isLeast_or_le with least | lower
  · rw [least]
    exact isScale'.least_le
  · have powers : (2 : Rat) ^ (scale + 52) < 2 ^ (scale' + 53) :=
      lt_of_le_of_lt (le_trans lower le) isScale'.lt
    have exponents := (zpow_lt_zpow_iff_right₀ (by norm_num)).mp powers
    omega

theorem IsScale.roundedMantissa_le (isScale : IsScale x scale)
    (reads : Reads em (x / 2 ^ scale)) : em.roundedMantissa ≤ Word.count 53 := by
  have below : x / 2 ^ scale < Word.count 53 := by
    rw [div_lt_iff₀ (by positivity)]
    exact lt_of_lt_of_eq isScale.lt (two_zpow_add scale 53)
  have mantissa : em.mantissa < Word.count 53 := by
    exact_mod_cast lt_of_le_of_lt reads.mantissa_le below
  exact le_trans (roundedMantissa_bounds em).2 mantissa

theorem IsScale.isLeast_or_le_roundedMantissa (isScale : IsScale x scale)
    (reads : Reads em (x / 2 ^ scale)) :
    scale = -1074 ∨ Word.count 52 ≤ em.roundedMantissa := by
  refine isScale.isLeast_or_le.imp_right fun lower => ?_
  have above : (Word.count 52 : Rat) ≤ x / 2 ^ scale := by
    rw [le_div_iff₀ (by positivity)]
    exact le_of_eq_of_le (two_zpow_add scale 52).symm lower
  have mantissa : Word.count 52 < em.mantissa + 1 := by
    exact_mod_cast lt_of_le_of_lt above reads.lt_mantissa_add_one
  exact le_trans (Nat.lt_succ_iff.mp mantissa) (roundedMantissa_bounds em).1

/-- Rounding is monotone. -/
theorem IsNearestSize.mono (nearest : IsNearestSize x size) (nearest' : IsNearestSize x' size')
    (le : x ≤ x') : size ≤ size' := by
  obtain ⟨scale, em, isScale, reads, rfl⟩ := nearest
  obtain ⟨scale', em', isScale', reads', rfl⟩ := nearest'
  have scales := isScale.mono isScale' le
  refine min_le_min_right _ ?_
  rcases Int.lt_or_eq_of_le scales with below | rfl
  · -- The greatest size of one scale is the least one of the next.
    have upper := isScale.roundedMantissa_le reads
    have lower := isScale'.isLeast_or_le_roundedMantissa reads'
    have least := isScale.least_le
    simp only [finiteSize, Word.count, Nat.reduceShiftLeft] at *
    omega
  · have shares : x / 2 ^ scale ≤ x' / 2 ^ scale := by gcongr
    have mantissas := reads.roundedMantissa_le reads' shares
    simp only [finiteSize]
    omega

theorem IsNearestSize.le_infiniteSize (nearest : IsNearestSize x size) : size ≤ infiniteSize := by
  obtain ⟨scale, em, -, -, rfl⟩ := nearest
  exact min_le_right _ _

theorem IsNearestSize.nonneg (nearest : IsNearestSize x size) : 0 ≤ size := by
  obtain ⟨scale, em, isScale, -, rfl⟩ := nearest
  have least := isScale.least_le
  simp only [finiteSize, infiniteSize, Word.count, Nat.reduceShiftLeft]
  omega

/-- A number that is a machine number is the nearest one to itself. -/
theorem isNearestSize_finiteSize {mantissa : Nat} {exponent : Int}
    (form : IsNormalForm mantissa exponent) :
    IsNearestSize (mantissa * 2 ^ exponent) (finiteSize mantissa exponent) := by
  have whole : (mantissa : Rat) * 2 ^ exponent / 2 ^ exponent = mantissa := by
    field_simp
  refine ⟨exponent, .ofMantissaAndAccuracy mantissa .exact, ⟨form.least_le, ?_, ?_⟩, ?_, ?_⟩
  · have bound : (mantissa : Rat) < Word.count 53 := by exact_mod_cast form.mantissa_lt
    refine lt_of_lt_of_eq ?_ (two_zpow_add exponent 53).symm
    gcongr
  · refine form.isLeast_or_leading.imp_right fun leading => ?_
    have bound : (Word.count 52 : Rat) ≤ mantissa := by exact_mod_cast leading
    refine le_of_eq_of_le (two_zpow_add exponent 52) ?_
    gcongr
  · rw [whole]
    exact reads_exact mantissa
  · exact (min_eq_left (le_of_lt form.finiteSize_lt)).symm

theorem isNearestSize_zero : IsNearestSize 0 0 := by
  refine ⟨-1074, .ofMantissaAndAccuracy 0 .exact, ⟨le_rfl, by positivity, Or.inl rfl⟩, ?_, rfl⟩
  rw [zero_div]
  exact_mod_cast reads_exact 0

end

end JunctionReplay.Machine
