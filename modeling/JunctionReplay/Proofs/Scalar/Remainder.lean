import JunctionReplay.Proofs.Scalar.Monotone

/-!
# Remainders

A time is moved into a cycle by the remainder of a division.  In exact arithmetic that is what is
left below the floor of the quotient, the one number of the cycle that differs from the time by
whole cycles.

On machine numbers the remainder is taken on significands, once both are brought to the smaller of
the two exponents.  One of them stays as it is there, and what is left is no larger than that one,
so it has no more places than a machine number has and nothing is rounded.  So the remainder of
machine numbers stands for the remainder of the numbers that they stand for, and it lies in the
cycle as exactly as that one does.

## Main Definitions

* `Machine.valueOf`, `Machine.IsShort` — the value of a significand with its exponent, and whether
  it is that of a machine number.
* `CyclicScalar` — the laws that a time in a cycle takes, with instances for machine numbers and
  exact ones.

## Main Statements

* `Scalar.wrap_add_mul` — whole cycles do not change an exact remainder.
* `Machine.standsFor_toFloat` — a number that is short enough is written down as it is.
* `Machine.standsFor_wrap` — remainders of machine numbers are exact.
-/

namespace JunctionReplay

/-! ## Exact remainders -/

namespace Scalar

variable {time cycle rest : Rat}

theorem wrap_exact (time cycle : Rat) :
    wrap time cycle = time - cycle * ((time / cycle).floor : Rat) :=
  rfl

/-- Whole cycles do not change a remainder. -/
theorem wrap_add_mul (positive : 0 < cycle) (time : Rat) (whole : Int) :
    wrap (time + whole * cycle) cycle = wrap time cycle := by
  have quotient : (time + whole * cycle) / cycle = time / cycle + whole := by
    field_simp
  rw [wrap_exact, wrap_exact, quotient, Rat.floor_add_intCast, Int.cast_add]
  ring

theorem wrap_exact_nonneg (positive : 0 < cycle) (time : Rat) : 0 ≤ wrap time cycle := by
  have below : ((time / cycle).floor : Rat) ≤ time / cycle := Rat.floor_le _
  rw [wrap_exact, sub_nonneg, mul_comm, ← le_div_iff₀ positive]
  exact below

theorem wrap_exact_lt (positive : 0 < cycle) (time : Rat) : wrap time cycle < cycle := by
  have above : time / cycle < ((time / cycle).floor + 1 : Int) := Rat.lt_floor_add_one _
  rw [div_lt_iff₀ positive, Int.cast_add, Int.cast_one] at above
  rw [wrap_exact]
  linarith

/-- What differs from a time by whole cycles and lies in the cycle is the remainder. -/
theorem wrap_eq_of_lt (whole : Int) (nonneg : 0 ≤ rest) (below : rest < cycle)
    (split : time = rest + whole * cycle) : wrap time cycle = rest := by
  have positive : 0 < cycle := lt_of_le_of_lt nonneg below
  have none : (rest / cycle).floor = 0 := by
    apply le_antisymm
    · rw [← Int.lt_add_one_iff, Rat.floor_lt_iff, zero_add, Int.cast_one, div_lt_one positive]
      exact below
    · rw [Rat.le_floor_iff, Int.cast_zero]
      exact div_nonneg nonneg positive.le
  rw [split, wrap_add_mul positive, wrap_exact, none, Int.cast_zero, mul_zero, sub_zero]

end Scalar

namespace Machine

open Decimal (Binary isNegative)
open Float.Model (Format UnpackedFloat)
open Float.Model.UnpackedFloat

variable {x y : Float} {a b : Binary} {mantissa : Nat} {exponent : Int}

/-! ## Significands and exponents -/

/-- The number that a significand and an exponent stand for. -/
def valueOf (b : Binary) : Rat := b.significand * 2 ^ b.exponent

/-- A number with no more places than a machine number has, and with an exponent that one can
have. -/
structure IsShort (b : Binary) : Prop where
  significand_lt : b.significand < Word.count 53
  least_le : -1074 ≤ b.exponent
  le_greatest : b.exponent ≤ 971

theorem isShort_ofFloat (finite : x.isFinite) : IsShort (Binary.ofFloat x) := by
  have bound : ((x.toBits.toNat % Word.count 63 : Nat) : Int) < infiniteSize :=
    (isReading_toModel x).isFinite_iff.mp finite
  rw [ofFloat_eq x rfl]
  generalize x.toBits.toNat % Word.count 63 = size at bound
  have fraction : size % Word.count 52 < Word.count 52 := Nat.mod_lt _ (by decide)
  have scale : size / Word.count 52 < 2047 := by
    simp only [infiniteSize, Word.count, Nat.reduceShiftLeft] at bound ⊢
    omega
  generalize size % Word.count 52 = rest at fraction
  generalize size / Word.count 52 = scale at scale
  simp only [Word.count, Nat.reduceShiftLeft] at fraction
  split
  next least => constructor <;> simp only [Word.count, Nat.reduceShiftLeft] <;> omega
  next normal => constructor <;> simp only [Word.count, Nat.reduceShiftLeft] <;> omega

theorem valueOf_ofFloat (finite : x.isFinite) (nonneg : 0 ≤ x) :
    valueOf (Binary.ofFloat x) = exactValue x := by
  have least := (isShort_ofFloat finite).least_le
  have rank_nonneg : 0 ≤ rank x := (le_iff.mp nonneg).2
  have size : (rank x).natAbs = x.toBits.toNat % Word.count 63 := by
    rw [rank]
    cases signOf x.toBits.toNat <;> simp only [Sign.apply] <;> omega
  have steps : stepsAt (rank x) = stepsTo x := by
    rw [stepsAt, if_neg (Int.not_lt.mpr rank_nonneg), size, stepsTo_eq]
  rw [exactValue_eq, steps, Int.cast_natCast, natCast_count, valueOf, ← shiftLeft_mul_zpow _ least,
    stepsTo, Binary.alignedTo, zpow_neg, div_eq_mul_inv]
  norm_cast

/-! ## Writing numbers down -/

/-- A pattern of bits below that of the infinite number stands at the rank that it is. -/
theorem rank_ofBits {bits : UInt64} (finite : (bits.toNat : Int) < infiniteSize) :
    rank (Float.ofBits bits) = bits.toNat := by
  have reading := isReading_unpack bits.toBitVec
  have size : bits.toBitVec.toNat = bits.toNat := rfl
  have positive : bits.toNat < Word.count 63 := by
    simp only [infiniteSize, Word.count, Nat.reduceShiftLeft] at finite ⊢
    omega
  rw [size, signOf, if_pos positive, Nat.mod_eq_of_lt positive] at reading
  have placed := reading.hasPlace_iff.mpr (Int.le_of_lt finite)
  have place_eq := reading.place_eq placed
  have isFinite := reading.isFinite_iff.mpr finite
  change rank (written (unpack Format.binary64 bits.toBitVec)) = bits.toNat
  generalize unpack Format.binary64 bits.toBitVec = number at placed place_eq isFinite
  simp only [Sign.apply] at place_eq
  cases number with
  | notANumber => exact placed.elim
  | infinity sign => cases isFinite
  | zero sign =>
      have isZero : (0 : Int) = bits.toNat := place_eq
      rw [← isZero]
      cases sign <;> decide
  | finite sign mantissa exponent positive =>
      have form : IsNormalForm mantissa exponent := placed
      have sizePos := form.finiteSize_pos
      cases sign with
      | negative =>
          have below : -finiteSize mantissa exponent = bits.toNat := place_eq
          omega
      | positive => exact (rank_written_finite form).trans place_eq

/-- A size is written down as the bits that it counts. -/
theorem rank_ofBits_size (form : IsNormalForm mantissa exponent) {size : Nat}
    (same : (size : Int) = finiteSize mantissa exponent) :
    rank (Float.ofBits size.toUInt64) = finiteSize mantissa exponent := by
  have finite := form.finiteSize_lt
  have fits : size < 2 ^ 64 := by
    simp only [infiniteSize, Word.count, Nat.reduceShiftLeft] at finite
    omega
  have toNat_eq : size.toUInt64.toNat = size := UInt64.toNat_ofNat_of_lt' fits
  rw [rank_ofBits (by rw [toNat_eq, same]; exact finite), toNat_eq, same]

theorem toFloat_eq_zero (none : b.significand = 0) : b.toFloat = 0 := by
  unfold Binary.toFloat
  simp only [none, Nat.zero_shiftLeft, Nat.zero_shiftRight]
  rfl

/-- The exponent that a number is written down with: the one that gives its significand all places,
or the least that there is. -/
def scaleOf (b : Binary) : Int := max (b.exponent + b.significand.log2 - 52) (-1074)

/-- Of a number that is short enough nothing is cut off. -/
theorem IsShort.scaleOf_le (short : IsShort b) (positive : 0 < b.significand) :
    scaleOf b ≤ b.exponent := by
  have least := short.least_le
  have places : b.significand.log2 < 53 := (Nat.log2_lt positive.ne').mpr short.significand_lt
  unfold scaleOf
  omega

/-- A number that is short enough is moved to its normal form. -/
theorem IsShort.isNormalForm (short : IsShort b) (positive : 0 < b.significand) :
    IsNormalForm (b.significand <<< (b.exponent - scaleOf b).toNat) (scaleOf b) := by
  have greatest := short.le_greatest
  have below := short.scaleOf_le positive
  have log2_eq := log2_shiftLeft positive (b.exponent - scaleOf b).toNat
  have mantissaPos : 0 < b.significand <<< (b.exponent - scaleOf b).toNat := by
    rw [Nat.shiftLeft_eq]
    positivity
  generalize b.significand <<< (b.exponent - scaleOf b).toNat = mantissa at log2_eq mantissaPos
  unfold scaleOf at log2_eq below ⊢
  have leading : Word.count 52 ≤ mantissa ↔ 52 ≤ mantissa.log2 := by
    change 2 ^ 52 ≤ mantissa ↔ _
    exact (Nat.le_log2 mantissaPos.ne').symm
  have places : mantissa.log2 < 53 := by omega
  exact
    { mantissa_pos := mantissaPos
      mantissa_lt := (Nat.log2_lt mantissaPos.ne').mp places
      least_le := by omega
      le_greatest := by omega
      isLeast_or_leading := by rw [leading]; omega }

/-- A number that is short enough is written down in its normal form, which has the same value. -/
theorem exists_rank_toFloat_eq (short : IsShort b) (positive : 0 < b.significand) :
    ∃ mantissa exponent, IsNormalForm mantissa exponent ∧
      valueOf b = mantissa * 2 ^ exponent ∧ rank b.toFloat = finiteSize mantissa exponent := by
  have below := short.scaleOf_le positive
  have form := short.isNormalForm positive
  have value := shiftLeft_mul_zpow b.significand below
  have nothingCut : (scaleOf b - b.exponent).toNat = 0 := by omega
  have scale_eq : max (b.exponent + b.significand.log2 - 52) (-1074) = scaleOf b := rfl
  refine ⟨_, _, form, value.symm, ?_⟩
  unfold Binary.toFloat
  simp only [scale_eq, nothingCut, Nat.shiftRight_zero]
  generalize b.significand <<< (b.exponent - scaleOf b).toNat = mantissa at form
  generalize scaleOf b = scale at form
  split
  next small =>
    have isLeast : scale = -1074 := form.isLeast_or_leading.resolve_right (Nat.not_le.mpr small)
    apply rank_ofBits_size form
    rw [finiteSize, isLeast]
    omega
  next large =>
    apply rank_ofBits_size form
    have least := form.least_le
    rw [Nat.shiftLeft_eq]
    simp only [finiteSize, Word.count, Nat.reduceShiftLeft] at large ⊢
    omega

/-- A machine number that is finite and not negative stands for a number. -/
structure StandsFor (x : Float) (value : Rat) : Prop where
  isFinite : x.isFinite
  nonneg : 0 ≤ x
  exactValue_eq : exactValue x = value

/-- A number that is short enough is written down as it is. -/
theorem standsFor_toFloat (short : IsShort b) : StandsFor b.toFloat (valueOf b) := by
  rcases Nat.eq_zero_or_pos b.significand with none | positive
  · rw [toFloat_eq_zero none, valueOf, none, Nat.cast_zero, zero_mul]
    exact ⟨by decide, by decide, exactValue_zero⟩
  · obtain ⟨mantissa, exponent, form, value, rank_eq⟩ := exists_rank_toFloat_eq short positive
    have sizePos := form.finiteSize_pos
    have sizeLt := form.finiteSize_lt
    have finite : b.toFloat.isFinite := isFinite_iff.mpr (by omega)
    have rankedZero : HasRank 0 := hasRank_of_isFinite (by decide)
    have rankZero : rank 0 = 0 := by decide
    refine ⟨finite, le_iff.mpr ⟨⟨rankedZero, hasRank_of_isFinite finite⟩, by omega⟩, ?_⟩
    rw [value, exactValue_eq, rank_eq, stepsAt_finiteSize form]

/-! ## Remainders of significands -/

/-- The number of the smaller exponent keeps its significand, and what is left is not larger. -/
theorem isShort_remainder (shortA : IsShort a) (shortB : IsShort b)
    (positive : 0 < b.significand) : IsShort (a.remainder b) := by
  obtain ⟨boundA, leastA, greatestA⟩ := shortA
  obtain ⟨boundB, leastB, greatestB⟩ := shortB
  obtain ⟨shared, shared_eq⟩ : ∃ shared : Int, min a.exponent b.exponent = shared := ⟨_, rfl⟩
  have parts : a.remainder b = ⟨a.alignedTo shared % b.alignedTo shared, shared⟩ := by
    rw [← shared_eq]
    rfl
  rw [parts]
  refine ⟨?_, by change -1074 ≤ shared; omega, by change shared ≤ 971; omega⟩
  change a.alignedTo shared % b.alignedTo shared < Word.count 53
  rcases Int.le_total a.exponent b.exponent with le | le
  · have kept : a.alignedTo shared = a.significand := by
      rw [Binary.alignedTo, ← shared_eq, min_eq_left le, sub_self]
      rfl
    rw [kept]
    exact lt_of_le_of_lt (Nat.mod_le _ _) boundA
  · have kept : b.alignedTo shared = b.significand := by
      rw [Binary.alignedTo, ← shared_eq, min_eq_right le, sub_self]
      rfl
    rw [kept]
    exact lt_trans (Nat.mod_lt _ positive) boundB

theorem valueOf_remainder (positive : 0 < b.significand) :
    valueOf (a.remainder b) = Scalar.wrap (valueOf a) (valueOf b) := by
  obtain ⟨shared, shared_eq⟩ : ∃ shared : Int, min a.exponent b.exponent = shared := ⟨_, rfl⟩
  have valueA : valueOf a = a.alignedTo shared * 2 ^ shared :=
    (shiftLeft_mul_zpow _ (by omega)).symm
  have valueB : valueOf b = b.alignedTo shared * 2 ^ shared :=
    (shiftLeft_mul_zpow _ (by omega)).symm
  have alignedPos : 0 < b.alignedTo shared := by
    rw [Binary.alignedTo, Nat.shiftLeft_eq]
    positivity
  have value : valueOf (a.remainder b) =
      (a.alignedTo shared % b.alignedTo shared : Nat) * 2 ^ shared := by
    rw [← shared_eq]
    rfl
  have below : a.alignedTo shared % b.alignedTo shared < b.alignedTo shared :=
    Nat.mod_lt _ alignedPos
  have split := Nat.mod_add_div (a.alignedTo shared) (b.alignedTo shared)
  symm
  apply Scalar.wrap_eq_of_lt (a.alignedTo shared / b.alignedTo shared : Nat)
  · rw [value]
    positivity
  · rw [value, valueB]
    gcongr
  · rw [value, valueA, valueB]
    generalize a.alignedTo shared % b.alignedTo shared = rest at split
    generalize a.alignedTo shared / b.alignedTo shared = whole at split
    rw [← split]
    push_cast
    ring

/-! ## Remainders of machine numbers -/

theorem isNaN_of_isFinite (finite : x.isFinite) : x.isNaN = false ∧ x.isInf = false := by
  have finite' : x.toModel.unpack.isFinite := finite
  change x.toModel.unpack.isNaN = false ∧ x.toModel.unpack.isInf = false
  generalize x.toModel.unpack = number at finite' ⊢
  cases number with
  | notANumber | infinity => cases finite'
  | zero | finite => exact ⟨rfl, rfl⟩

/-- Of the numbers with a set sign bit only the negative zero is not negative. -/
theorem significand_ofFloat_of_isNegative (negative : isNegative x) (nonneg : 0 ≤ x) :
    (Binary.ofFloat x).significand = 0 := by
  have rank_nonneg : 0 ≤ rank x := (le_iff.mp nonneg).2
  have sign : ¬ x.toBits.toNat < Word.count 63 := by
    intro positive
    have shifted : (x.toBits >>> 63).toNat = 0 := by
      rw [UInt64.toNat_shiftRight, show (63 : UInt64).toNat % 64 = 63 from rfl,
        Nat.shiftRight_eq_div_pow]
      exact Nat.div_eq_of_lt positive
    have one : x.toBits >>> 63 = 1 := eq_of_beq negative
    rw [one] at shifted
    cases shifted
  have none : x.toBits.toNat % Word.count 63 = 0 := by
    rw [rank, signOf, if_neg sign] at rank_nonneg
    simp only [Sign.apply] at rank_nonneg
    omega
  rw [ofFloat_eq x none]
  rfl

section

variable (finiteX : x.isFinite) (nonneg : 0 ≤ x) (finiteY : y.isFinite) (positive : 0 < y)

include finiteX finiteY positive

theorem signedRemainder_eq :
    signedRemainder x y =
      if isNegative x then -((Binary.ofFloat x).remainder (Binary.ofFloat y)).toFloat
      else ((Binary.ofFloat x).remainder (Binary.ofFloat y)).toFloat := by
  obtain ⟨numberX, boundedX⟩ := isNaN_of_isFinite finiteX
  obtain ⟨numberY, boundedY⟩ := isNaN_of_isFinite finiteY
  have notZero : (y == 0.0) = false := by
    refine Bool.eq_false_iff.mpr fun zero => ?_
    exact (lt_iff.mp positive).2.ne (beq_iff.mp zero).2.symm
  have defined : ¬ (x.isNaN || y.isNaN || x.isInf || y == 0.0) := by
    rw [numberX, numberY, boundedX, notZero]
    decide
  have bounded : ¬ y.isInf := Bool.eq_false_iff.mp boundedY
  rw [signedRemainder, if_neg defined, if_neg bounded]

include nonneg

theorem standsFor_remainder :
    StandsFor ((Binary.ofFloat x).remainder (Binary.ofFloat y)).toFloat
      (Scalar.wrap (exactValue x) (exactValue y)) := by
  have valueX := valueOf_ofFloat finiteX nonneg
  have valueY := valueOf_ofFloat finiteY (Scalar.le_of_lt positive)
  have significandPos : 0 < (Binary.ofFloat y).significand := by
    refine Nat.pos_of_ne_zero fun none => ?_
    have valuePos := exactValue_pos positive
    rw [← valueY, valueOf, none, Nat.cast_zero, zero_mul] at valuePos
    exact lt_irrefl _ valuePos
  rw [← valueX, ← valueY, ← valueOf_remainder significandPos]
  exact standsFor_toFloat
    (isShort_remainder (isShort_ofFloat finiteX) (isShort_ofFloat finiteY) significandPos)

theorem standsFor_signedRemainder :
    StandsFor (signedRemainder x y) (Scalar.wrap (exactValue x) (exactValue y)) := by
  have stands := standsFor_remainder finiteX nonneg finiteY positive
  rw [signedRemainder_eq finiteX finiteY positive]
  split
  next negative =>
    -- Of the negative zero nothing is left, and it keeps its sign.
    have none := significand_ofFloat_of_isNegative negative nonneg
    have left : ((Binary.ofFloat x).remainder (Binary.ofFloat y)).significand = 0 := by
      change Binary.alignedTo _ _ % Binary.alignedTo _ _ = 0
      rw [Binary.alignedTo, none, Nat.zero_shiftLeft, Nat.zero_mod]
    rw [toFloat_eq_zero left] at stands ⊢
    have value : exactValue (-0) = 0 := by decide +kernel
    rw [← stands.exactValue_eq]
    exact ⟨by decide, by decide, value.trans exactValue_zero.symm⟩
  next => exact stands

/-- **Remainders of machine numbers are exact.**  The remainder of a time that is not negative
stands for the remainder of the exact numbers. -/
theorem standsFor_wrap : StandsFor (wrap x y) (Scalar.wrap (exactValue x) (exactValue y)) := by
  have stands := standsFor_signedRemainder finiteX nonneg finiteY positive
  have notNegative : ¬ signedRemainder x y < 0.0 := Scalar.not_lt_of_le stands.nonneg
  rw [wrap, if_neg notNegative]
  exact stands

theorem wrap_lt : wrap x y < y := by
  have stands := standsFor_wrap finiteX nonneg finiteY positive
  have number := isNumber_iff.mpr (hasRank_of_isFinite stands.isFinite)
  rw [← exactValue_lt_iff number (Scalar.isNumber_of_lt positive).2, stands.exactValue_eq]
  exact Scalar.wrap_exact_lt (exactValue_pos positive) _

end

end Machine

/-! ## Times in a cycle -/

/-- A scalar type in which times add up and can be moved into a cycle. -/
class CyclicScalar (α : Type) [Scalar α] : Prop extends MonotoneScalar α where
  le_add_left {a b : α} : 0 ≤ a → 0 ≤ b → b ≤ a + b
  wrap_nonneg {time cycle : α} :
    Scalar.isFinite time → 0 ≤ time → Scalar.isFinite cycle → 0 < cycle →
      0 ≤ Scalar.wrap time cycle
  wrap_lt {time cycle : α} :
    Scalar.isFinite time → 0 ≤ time → Scalar.isFinite cycle → 0 < cycle →
      Scalar.wrap time cycle < cycle

instance : CyclicScalar Float where
  le_add_left nonnegA nonnegB := (Machine.le_sum nonnegA nonnegB).2
  wrap_nonneg finite nonneg finiteCycle positive :=
    (Machine.standsFor_wrap finite nonneg finiteCycle positive).nonneg
  wrap_lt := Machine.wrap_lt

instance : CyclicScalar Rat where
  le_add_left nonneg _ := le_add_of_nonneg_left nonneg
  wrap_nonneg _ _ _ positive := Scalar.wrap_exact_nonneg positive _
  wrap_lt _ _ _ positive := Scalar.wrap_exact_lt positive _

end JunctionReplay
