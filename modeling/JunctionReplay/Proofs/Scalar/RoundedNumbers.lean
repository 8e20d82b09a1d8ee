import JunctionReplay.Proofs.Scalar.Rounding

/-!
# Rounded numbers

What the rounding of machine arithmetic comes to: an exact number that is not negative, given by its
leading places and the two bits behind them, is rounded and written down as the pattern of bits of
the nearest size.

Rounding takes two steps, since a mantissa that is rounded up may get one place too many and then
moves to the next exponent.  The size does not tell the two steps apart: the greatest mantissa and
one more at one exponent is the same size as the least mantissa at the next.

## Main Statements

* `Machine.toNat_pack_finite` — the size of a number that is written down.
* `Machine.isNearestSize_roundWithAccuracy` — a number is rounded to the nearest size.
-/

namespace JunctionReplay.Machine

open Float.Model (Format UnpackedFloat)
open Float.Model.UnpackedFloat

/-! ## Patterns of bits -/

/-- The pattern of a positive number is put together from its exponent and its mantissa. -/
theorem toNat_packComponents (exponent : BitVec 11) (mantissa : BitVec 52) :
    (packComponents Format.binary64 .positive exponent mantissa).toNat =
      exponent.toNat * Word.count 52 + mantissa.toNat := by
  have exponentLt : exponent.toNat < 2 ^ 11 := exponent.isLt
  have sign : (0#1 ++ exponent).toNat = exponent.toNat := by
    rw [BitVec.toNat_append]
    simp
  change (0#1 ++ exponent ++ mantissa).toNat = _
  rw [BitVec.toNat_append, ← Nat.shiftLeft_add_eq_or_of_lt mantissa.isLt, sign, Nat.shiftLeft_eq]
  rfl

section

variable {mantissa : Nat} {exponent : Int}

/-- A mantissa has 53 places if it has its leading bit. -/
theorem log2_add_one_eq (positive : 0 < mantissa) (bound : mantissa < Word.count 53) :
    mantissa.log2 + 1 = 53 ↔ Word.count 52 ≤ mantissa := by
  have upper : mantissa.log2 < 53 := (Nat.log2_lt (Nat.ne_of_gt positive)).mpr bound
  have lower : 52 ≤ mantissa.log2 ↔ 2 ^ 52 ≤ mantissa := Nat.le_log2 (Nat.ne_of_gt positive)
  change _ ↔ 2 ^ 52 ≤ mantissa
  omega

/-- A number beyond the finite ones is written down as the infinite one. -/
theorem toNat_pack_finite (positive : 0 < mantissa) (bound : mantissa < Word.count 53)
    (least : -1074 ≤ exponent) (leading : exponent = -1074 ∨ Word.count 52 ≤ mantissa) :
    ((pack Format.binary64 (.finite .positive mantissa exponent positive)).toNat : Int) =
      min (finiteSize mantissa exponent) infiniteSize := by
  have isNormal := log2_add_one_eq positive bound
  have biased : exponent + (Format.binary64.exponentBias : Int) +
      (Format.binary64.mantissaBitsWithoutImplicit : Int) = exponent + 1075 := by
    change exponent + 1023 + 52 = _
    omega
  unfold pack
  dsimp only
  rw [biased]
  change ((if 2048 ≤ (exponent + 1075).toNat + 1 then packedInfinity Format.binary64 .positive
    else if mantissa.log2 + 1 = 53 then
      packComponents Format.binary64 .positive (BitVec.ofNat 11 (exponent + 1075).toNat)
        (BitVec.ofNat 52 mantissa)
    else packComponents Format.binary64 .positive 0#11 (BitVec.ofNat 52 mantissa)).toNat : Int) = _
  by_cases beyond : 972 ≤ exponent
  · have large : 2048 ≤ (exponent + 1075).toNat + 1 := by omega
    rw [if_pos large]
    change (2047 * Word.count 52 : Int) = _
    simp only [finiteSize, infiniteSize, Word.count, Nat.reduceShiftLeft] at bound leading ⊢
    omega
  · have small : ¬ 2048 ≤ (exponent + 1075).toNat + 1 := by omega
    rw [if_neg small]
    by_cases normal : Word.count 52 ≤ mantissa
    · rw [if_pos (isNormal.mpr normal), toNat_packComponents, BitVec.toNat_ofNat,
        BitVec.toNat_ofNat]
      simp only [finiteSize, infiniteSize, Word.count, Nat.reduceShiftLeft] at bound normal ⊢
      omega
    · rw [if_neg (mt isNormal.mp normal), toNat_packComponents, BitVec.toNat_ofNat,
        BitVec.toNat_ofNat]
      simp only [finiteSize, infiniteSize, Word.count, Nat.reduceShiftLeft] at leading normal ⊢
      omega

/-! ## Steps of rounding -/

@[simp] theorem mantissa_ofMantissaAndAccuracy (mantissa : Nat) (accuracy : Accuracy) :
    (ExtendedMantissa.ofMantissaAndAccuracy mantissa accuracy).mantissa = mantissa := by
  cases accuracy with
  | exact => rfl
  | inexact side => cases side <;> rfl

/-- A mantissa is shifted by the places that it has too many, or up to the least exponent. -/
theorem shiftToTargetExponent_eq (accuracy : Accuracy) (places : Nat)
    (amount : (max ((mantissa.log2 : Int) + 1 + exponent - 53) (-1074) - exponent).toNat = places) :
    shiftToTargetExponent Format.binary64 mantissa exponent accuracy =
      (ExtendedMantissa.ofMantissaAndAccuracy mantissa accuracy >>> places, exponent + places) := by
  subst amount
  rfl

/-- A mantissa with at most 53 places stays as it is. -/
theorem shiftToTargetExponent_of_lt (bound : mantissa < Word.count 53) (least : -1074 ≤ exponent) :
    shiftToTargetExponent Format.binary64 mantissa exponent .exact =
      (⟨mantissa, false, false⟩, exponent) := by
  have places : mantissa.log2 < 53 := by
    by_cases none : mantissa = 0
    · rw [none, Nat.log2_zero]
      decide
    · exact (Nat.log2_lt none).mpr bound
  rw [shiftToTargetExponent_eq .exact 0 (by omega)]
  exact congrArg _ (Int.add_zero exponent)

/-- A mantissa that was rounded up to one place more moves to the next exponent. -/
theorem shiftToTargetExponent_carry (least : -1074 ≤ exponent) :
    shiftToTargetExponent Format.binary64 (Word.count 53) exponent .exact =
      (⟨Word.count 52, false, false⟩, exponent + 1) := by
  have places : (Word.count 53).log2 = 53 := by decide +kernel
  exact shiftToTargetExponent_eq .exact 1 (by rw [places]; omega)

/-- What is left after rounding is written down with the size that it has. -/
theorem toNat_pack_roundWithAccuracy {first : Int} {accuracy : Accuracy}
    {rounded : ExtendedMantissa} {start : Nat}
    (shift : shiftToTargetExponent Format.binary64 start first accuracy = (rounded, exponent))
    (bound : rounded.roundedMantissa ≤ Word.count 53) (least : -1074 ≤ exponent)
    (leading : exponent = -1074 ∨ Word.count 52 ≤ rounded.roundedMantissa) :
    ((pack Format.binary64
      (roundWithAccuracy Format.binary64 .positive start first accuracy)).toNat : Int) =
      min (finiteSize rounded.roundedMantissa exponent) infiniteSize := by
  unfold roundWithAccuracy
  rw [shift]
  dsimp only
  generalize rounded.roundedMantissa = mantissa at bound leading
  rcases Nat.lt_or_eq_of_le bound with below | carries
  · rw [shiftToTargetExponent_of_lt below least]
    dsimp only
    rcases Nat.eq_zero_or_pos mantissa with none | positive
    · have isLeast : exponent = -1074 := leading.resolve_right (by rw [none]; decide)
      rw [dif_pos none, none, isLeast]
      rfl
    · rw [dif_neg (Nat.ne_of_gt positive)]
      exact toNat_pack_finite _ below least leading
  · -- The two sides have the same size at either exponent.
    have sizes :
        finiteSize (Word.count 53) exponent = finiteSize (Word.count 52) (exponent + 1) := by
      simp only [finiteSize, Word.count, Nat.reduceShiftLeft]
      omega
    rw [carries, shiftToTargetExponent_carry least]
    dsimp only
    rw [dif_neg (by decide), sizes]
    exact toNat_pack_finite _ (by decide) (by omega) (Or.inr (Nat.le_refl _))

end

/-- The exponent that a mantissa is shifted to keeps the places of the number that it reads. -/
theorem isScale_of_reads {mantissa : Nat} {exponent scale : Int} {accuracy : Accuracy} {x : Rat}
    (reads : Reads (.ofMantissaAndAccuracy mantissa accuracy) (x / 2 ^ exponent))
    (scale_eq : scale = max (mantissa.log2 + 1 + exponent - 53) (-1074))
    (enough : 52 ≤ mantissa.log2 ∨ exponent ≤ -1074) : IsScale x scale := by
  have unit : (0 : Rat) < 2 ^ exponent := by positivity
  have lower := reads.mantissa_le
  have upper := reads.lt_mantissa_add_one
  rw [mantissa_ofMantissaAndAccuracy] at lower upper
  refine ⟨by omega, ?_, ?_⟩
  · have places : (mantissa : Rat) + 1 ≤ 2 ^ (mantissa.log2 + 1) := by
      exact_mod_cast Nat.lt_log2_self
    calc x < (mantissa + 1) * 2 ^ exponent := (div_lt_iff₀ unit).mp upper
      _ ≤ 2 ^ (mantissa.log2 + 1) * 2 ^ exponent := by gcongr
      _ = 2 ^ ((mantissa.log2 : Int) + 1 + exponent) := by
          rw [zpow_add₀ two_ne_zero]
          norm_cast
      _ ≤ 2 ^ (scale + 53) := zpow_le_zpow_right₀ one_le_two (by omega)
  · rcases Nat.eq_zero_or_pos mantissa with none | positive
    · rw [none, Nat.log2_zero] at scale_eq enough
      exact Or.inl (by omega)
    · by_cases least : scale = -1074
      · exact Or.inl least
      · have places : (2 : Rat) ^ mantissa.log2 ≤ mantissa := by
          exact_mod_cast Nat.log2_self_le positive.ne'
        refine Or.inr ?_
        calc (2 : Rat) ^ (scale + 52) = 2 ^ ((mantissa.log2 : Int) + exponent) := by
              congr 1
              omega
          _ = 2 ^ mantissa.log2 * 2 ^ exponent := by rw [zpow_add₀ two_ne_zero, zpow_natCast]
          _ ≤ mantissa * 2 ^ exponent := by gcongr
          _ ≤ x := (le_div_iff₀ unit).mp lower

/-- A number that is given by its leading places is rounded to the nearest size. -/
theorem isNearestSize_roundWithAccuracy {mantissa : Nat} {exponent : Int} {accuracy : Accuracy}
    {x : Rat} (reads : Reads (.ofMantissaAndAccuracy mantissa accuracy) (x / 2 ^ exponent))
    (enough : 52 ≤ mantissa.log2 ∨ exponent ≤ -1074) :
    IsNearestSize x (pack Format.binary64
      (roundWithAccuracy Format.binary64 .positive mantissa exponent accuracy)).toNat := by
  obtain ⟨scale, scale_eq⟩ : ∃ scale : Int,
      scale = max (mantissa.log2 + 1 + exponent - 53) (-1074) := ⟨_, rfl⟩
  have isScale := isScale_of_reads reads scale_eq enough
  obtain ⟨places, places_eq⟩ : ∃ places : Nat, scale = exponent + places :=
    ⟨(scale - exponent).toNat, by omega⟩
  have shift : shiftToTargetExponent Format.binary64 mantissa exponent accuracy =
      (ExtendedMantissa.ofMantissaAndAccuracy mantissa accuracy >>> places, scale) := by
    rw [places_eq]
    exact shiftToTargetExponent_eq accuracy places (by omega)
  have shifted : Reads (ExtendedMantissa.ofMantissaAndAccuracy mantissa accuracy >>> places)
      (x / 2 ^ scale) := by
    have split : x / 2 ^ scale = x / 2 ^ exponent / 2 ^ places := by
      rw [places_eq, zpow_add₀ two_ne_zero, zpow_natCast, div_div]
    rw [split]
    exact reads.shiftRight places
  refine ⟨scale, _, isScale, shifted, ?_⟩
  exact toNat_pack_roundWithAccuracy shift (isScale.roundedMantissa_le shifted) isScale.least_le
    (isScale.isLeast_or_le_roundedMantissa shifted)

end JunctionReplay.Machine
