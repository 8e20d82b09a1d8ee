import JunctionReplay.Proofs.Scalar.Reciprocal

/-!
# Whole numbers as machine numbers

A whole number is taken over in one of two ways.  One that has at most 53 places is kept as it is
and multiplied by the power of ten that stands behind it, which is one; a larger one is rounded.
Either way a positive whole number becomes a machine number of at least one, since rounding is
monotone and one is a machine number itself.

## Main Statements

* `Machine.one_le_ofNat` — a positive whole number becomes at least one.
* `Machine.ofNat_nonneg` — no whole number becomes negative.
-/

namespace JunctionReplay.Machine

open Float.Model (Format UnpackedFloat)

variable {number : Nat} {word : UInt64} {x : Float}

theorem nonneg_one : (0 : Float) ≤ 1 := by decide

/-- What rounds an exact number of at least one is at least one. -/
theorem one_le_of_isNearestSize {exact : Rat} (le : 1 ≤ exact)
    (nearest : IsNearestSize exact (rank x)) : 1 ≤ x := by
  have one := isNearestSize_rank isFinite_one nonneg_one
  rw [exactValue_one] at one
  exact le_iff.mpr
    ⟨⟨hasRank_of_isFinite isFinite_one, hasRank_of_isNearestSize nearest⟩, one.mono nearest le⟩

/-! ## Words -/

/-- A word becomes the machine number nearest to it. -/
theorem isNearestSize_toFloat (word : UInt64) :
    IsNearestSize word.toNat (rank word.toFloat) := by
  show IsNearestSize word.toNat (rank (written (UnpackedFloat.ofNat Format.binary64 word.toNat)))
  rcases Nat.eq_zero_or_pos word.toNat with none | positive
  · rw [none]
    exact isNearestSize_written_zero .positive
  · have above : compare (word.toNat : Int) 0 = .gt :=
      compare_gt_iff_gt.mpr (Int.natCast_pos.mpr positive)
    have rounded : UnpackedFloat.ofNat Format.binary64 word.toNat =
        UnpackedFloat.round Format.binary64 .positive word.toNat 0 := by
      unfold UnpackedFloat.ofNat UnpackedFloat.ofInt UnpackedFloat.normalize
      rw [above]
      rfl
    have nearest := isNearestSize_round positive 0
    rw [zpow_zero, mul_one] at nearest
    rw [rounded]
    exact nearest

theorem one_le_toFloat (positive : 0 < word.toNat) : 1 ≤ word.toFloat :=
  one_le_of_isNearestSize (by exact_mod_cast positive) (isNearestSize_toFloat word)

/-- A word becomes a finite number, since the greatest one does. -/
theorem isFinite_toFloat (word : UInt64) : word.toFloat.isFinite := by
  let greatestWord : UInt64 := 0xFFFFFFFFFFFFFFFF
  have nearest := isNearestSize_toFloat word
  have bound : (word.toNat : Rat) ≤ greatestWord.toNat := by
    exact_mod_cast Nat.le_of_lt_succ word.toNat_lt
  have below := nearest.mono (isNearestSize_toFloat greatestWord) bound
  have greatestFinite := (isFinite_iff.mp (show greatestWord.toFloat.isFinite by decide +kernel)).2
  have infinite : 0 < infiniteSize := by decide
  have nonneg := nearest.nonneg
  exact isFinite_iff.mpr ⟨by omega, by omega⟩

/-! ## Whole numbers -/

/-- A whole number of at most 53 places is multiplied by one. -/
theorem one_le_ofNat_of_lt (positive : 0 < number) (small : number < 2 ^ 53) :
    1 ≤ Float.ofNat number := by
  have fast : Float.ofNat number = number.toUInt64.toFloat * Float.ofBits 0x3FF0000000000000 :=
    dif_pos ⟨small, by decide⟩
  have word : number.toUInt64.toNat = number := Nat.mod_eq_of_lt (by omega)
  have one : Float.ofBits 0x3FF0000000000000 = 1 := by decide +kernel
  have least : 1 ≤ number.toUInt64.toFloat := one_le_toFloat (by omega)
  have nonneg := OrderedScalar.le_trans nonneg_one least
  have product := isNearestSize_mul (isFinite_toFloat _) isFinite_one nonneg nonneg_one
  have value : 1 ≤ exactValue number.toUInt64.toFloat := by
    rw [← exactValue_one]
    exact exactValue_le least
  rw [exactValue_one, mul_one] at product
  rw [fast, one]
  exact one_le_of_isNearestSize value product

/-- A larger whole number is rounded, with as many places behind it as a machine number has. -/
theorem one_le_ofNat_of_le (large : 2 ^ 53 ≤ number) : 1 ≤ Float.ofNat number := by
  have positive : 0 < number := by omega
  have rounded : UnpackedFloat.ofScientific Format.binary64 number 0 =
      UnpackedFloat.roundWithAccuracy Format.binary64 .positive ((number <<< 53) * 1) (-53)
        .exact := by
    have notTiny : ¬ (0 : Int) < -(2 ^ 11 + number.log2) := by omega
    unfold UnpackedFloat.ofScientific
    rw [dif_neg positive.ne', if_neg (by decide), if_neg notTiny, if_pos (Int.le_refl 0)]
    rfl
  have slow : Float.ofNat number =
      written (UnpackedFloat.ofScientific Format.binary64 number 0) :=
    dif_neg fun fast => Nat.not_lt.mpr large fast.1
  have value : (number : Rat) / (2 : Rat) ^ (-53 : Int) = ((number <<< 53) * 1 : Nat) := by
    rw [mul_one, Nat.shiftLeft_eq, zpow_neg, div_inv_eq_mul]
    push_cast
    rfl
  have nearest : IsNearestSize number (rank (Float.ofNat number)) := by
    rw [slow, rounded]
    refine isNearestSize_written (isNearestSize_roundWithAccuracy ?_ (Or.inl ?_))
    · rw [value]
      exact reads_exact _
    · rw [mul_one, log2_shiftLeft positive]
      omega
  exact one_le_of_isNearestSize (by exact_mod_cast positive) nearest

/-- A positive whole number becomes at least one. -/
theorem one_le_ofNat (positive : 0 < number) : 1 ≤ Float.ofNat number := by
  rcases Nat.lt_or_ge number (2 ^ 53) with small | large
  · exact one_le_ofNat_of_lt positive small
  · exact one_le_ofNat_of_le large

theorem ofNat_nonneg (number : Nat) : 0 ≤ Float.ofNat number := by
  rcases Nat.eq_zero_or_pos number with rfl | positive
  · decide
  · exact OrderedScalar.le_trans nonneg_one (one_le_ofNat positive)

end JunctionReplay.Machine
