import JunctionReplay.Scalar.Machine
import JunctionReplay.Word

/-!
# The order of machine numbers

A machine number is a sign bit in front of 63 bits of exponent and mantissa.  Read as one natural
number, those 63 bits grow with the size of the number, so a machine number stands in the order at
the whole number `rank` that has its sign and the value of its 63 bits.  Both zeros have rank zero,
and the patterns past those of the infinite numbers stand for undefined results.

All comparisons of machine numbers are comparisons of ranks between numbers that have one.  With
this, facts about their order are facts about whole numbers.

## Main Definitions

* `Machine.rank` — where a machine number stands in the order.
* `Machine.HasRank` — whether it stands there at all, that is, whether it is defined.

## Main Statements

* `Machine.isReading_unpack` — what a pattern of bits stands for, by its sign and its size.
* `Machine.compare_eq` — numbers compare as their places do.
* `Machine.le_iff`, `Machine.lt_iff`, `Machine.beq_iff`, `Machine.isFinite_iff` — the comparisons
  that programs make, by rank.
-/

namespace JunctionReplay.Machine

open Float.Model (Format UnpackedFloat)
open Float.Model.UnpackedFloat

/-! ## Sizes -/

/-- The size of an infinite number: the greatest exponent over an empty mantissa. -/
def infiniteSize : Int := 2047 * Word.count 52

/-- The size of a finite number: the steps from zero to it through all numbers below. -/
def finiteSize (mantissa : Nat) (exponent : Int) : Int :=
  (exponent + 1074) * Word.count 52 + mantissa

/-- Mantissa and exponent are those of a finite number: the mantissa has its leading bit, unless
the exponent is the least one. -/
structure IsNormalForm (mantissa : Nat) (exponent : Int) : Prop where
  mantissa_pos : 0 < mantissa
  mantissa_lt : mantissa < Word.count 53
  least_le : -1074 ≤ exponent
  le_greatest : exponent ≤ 971
  isLeast_or_leading : exponent = -1074 ∨ Word.count 52 ≤ mantissa

section

variable {mantissa mantissa' : Nat} {exponent exponent' : Int}

theorem IsNormalForm.finiteSize_pos (form : IsNormalForm mantissa exponent) :
    0 < finiteSize mantissa exponent := by
  obtain ⟨positive, -, least, -, -⟩ := form
  simp only [finiteSize, Word.count]
  omega

theorem IsNormalForm.finiteSize_lt (form : IsNormalForm mantissa exponent) :
    finiteSize mantissa exponent < infiniteSize := by
  obtain ⟨-, bound, -, greatest, -⟩ := form
  simp only [finiteSize, infiniteSize, Word.count] at *
  omega

/-- The number with the smaller exponent is the smaller one: the mantissa of the other one has its
leading bit. -/
theorem finiteSize_lt_of_exponent_lt (first : IsNormalForm mantissa exponent)
    (second : IsNormalForm mantissa' exponent') (lt : exponent < exponent') :
    finiteSize mantissa exponent < finiteSize mantissa' exponent' := by
  obtain ⟨-, bound, least, -, -⟩ := first
  obtain ⟨-, -, -, -, leading⟩ := second
  simp only [finiteSize, Word.count] at *
  omega

/-- Exponents first and mantissas second is the order by size. -/
theorem compare_finiteSize (first : IsNormalForm mantissa exponent)
    (second : IsNormalForm mantissa' exponent') :
    (compare exponent exponent').then (compare mantissa mantissa') =
      compare (finiteSize mantissa exponent) (finiteSize mantissa' exponent') := by
  rcases Int.lt_trichotomy exponent exponent' with lt | rfl | gt
  · have sizes := finiteSize_lt_of_exponent_lt first second lt
    rw [Int.compare_eq_lt.mpr lt, Int.compare_eq_lt.mpr sizes]
    rfl
  · rw [Std.compare_self]
    rcases Nat.lt_trichotomy mantissa mantissa' with lt | rfl | gt
    · have sizes : finiteSize mantissa exponent < finiteSize mantissa' exponent := by
        simp only [finiteSize]
        omega
      rw [Nat.compare_eq_lt.mpr lt, Int.compare_eq_lt.mpr sizes]
      rfl
    · rw [Std.compare_self, Std.compare_self]
      rfl
    · have sizes : finiteSize mantissa' exponent < finiteSize mantissa exponent := by
        simp only [finiteSize]
        omega
      rw [Nat.compare_eq_gt.mpr gt, Int.compare_eq_gt.mpr sizes]
      rfl
  · have sizes := finiteSize_lt_of_exponent_lt second first gt
    rw [Int.compare_eq_gt.mpr gt, Int.compare_eq_gt.mpr sizes]
    rfl

end

/-! ## Places -/

/-- Where a number stands in the order by its sign and its size. -/
def place : UnpackedFloat → Int
  | .notANumber | .zero _ => 0
  | .infinity sign => sign.apply infiniteSize
  | .finite sign mantissa exponent _ => sign.apply (finiteSize mantissa exponent)

/-- The number is defined, and in normal form if it is finite. -/
def HasPlace : UnpackedFloat → Prop
  | .notANumber => False
  | .zero _ | .infinity _ => True
  | .finite _ mantissa exponent _ => IsNormalForm mantissa exponent

theorem place_bounds {a : UnpackedFloat} (placed : HasPlace a) (finite : a.isFinite) :
    -infiniteSize < place a ∧ place a < infiniteSize := by
  cases a with
  | notANumber => exact placed.elim
  | infinity sign => cases finite
  | zero sign => exact (by decide : -infiniteSize < 0 ∧ 0 < infiniteSize)
  | finite sign mantissa exponent positive =>
      have lower := IsNormalForm.finiteSize_pos placed
      have upper := IsNormalForm.finiteSize_lt placed
      have below : -infiniteSize < -finiteSize mantissa exponent ∧
          -finiteSize mantissa exponent < infiniteSize := by omega
      have above : -infiniteSize < finiteSize mantissa exponent ∧
          finiteSize mantissa exponent < infiniteSize := by omega
      cases sign with
      | negative => exact below
      | positive => exact above

/-- Changing both signs turns a comparison around. -/
theorem compare_neg (a b : Int) : compare (-a) (-b) = (compare a b).swap := by
  rw [Int.compare_swap]
  rcases Int.lt_trichotomy a b with lt | rfl | gt
  · rw [Int.compare_eq_gt.mpr lt, Int.compare_eq_gt.mpr (Int.neg_lt_neg lt)]
  · rw [Std.compare_self, Std.compare_self]
  · rw [Int.compare_eq_lt.mpr gt, Int.compare_eq_lt.mpr (Int.neg_lt_neg gt)]

/-- Numbers compare as their places do. -/
theorem compare_eq {a b : UnpackedFloat} (placedA : HasPlace a) (placedB : HasPlace b) :
    UnpackedFloat.compare a b = some (compare (place a) (place b)) := by
  cases a with
  | notANumber => exact placedA.elim
  | infinity signA =>
      cases b with
      | notANumber => exact placedB.elim
      | infinity signB => cases signA <;> cases signB <;> rfl
      | zero | finite =>
          have bounds := place_bounds placedB rfl
          cases signA with
          | negative => exact congrArg some (Int.compare_eq_lt.mpr bounds.1).symm
          | positive => exact congrArg some (Int.compare_eq_gt.mpr bounds.2).symm
  | zero signA =>
      cases b with
      | notANumber => exact placedB.elim
      | infinity signB => cases signB <;> rfl
      | zero signB => rfl
      | finite signB _ _ _ =>
          have positive := IsNormalForm.finiteSize_pos placedB
          cases signB with
          | negative =>
              exact congrArg some (Int.compare_eq_gt.mpr (Int.neg_neg_of_pos positive)).symm
          | positive => exact congrArg some (Int.compare_eq_lt.mpr positive).symm
  | finite signA mantissaA exponentA _ =>
      have positiveA := IsNormalForm.finiteSize_pos placedA
      cases b with
      | notANumber => exact placedB.elim
      | infinity signB =>
          have bounds := place_bounds placedA rfl
          cases signB with
          | negative => cases signA <;> exact congrArg some (Int.compare_eq_gt.mpr bounds.1).symm
          | positive => cases signA <;> exact congrArg some (Int.compare_eq_lt.mpr bounds.2).symm
      | zero signB =>
          cases signA with
          | negative =>
              exact congrArg some (Int.compare_eq_lt.mpr (Int.neg_neg_of_pos positiveA)).symm
          | positive => exact congrArg some (Int.compare_eq_gt.mpr positiveA).symm
      | finite signB mantissaB exponentB _ =>
          have positiveB := IsNormalForm.finiteSize_pos placedB
          have sizes := compare_finiteSize placedA placedB
          have across : -finiteSize mantissaA exponentA < finiteSize mantissaB exponentB := by
            omega
          have back : -finiteSize mantissaB exponentB < finiteSize mantissaA exponentA := by
            omega
          cases signA with
          | negative =>
              cases signB with
              | negative =>
                  refine congrArg some ?_
                  rw [sizes]
                  exact (compare_neg _ _).symm
              | positive => exact congrArg some (Int.compare_eq_lt.mpr across).symm
          | positive =>
              cases signB with
              | negative => exact congrArg some (Int.compare_eq_gt.mpr back).symm
              | positive => exact congrArg some sizes

/-! ## Patterns of bits -/

theorem toNat_unpackExponent (bits : BitVec Format.binary64.numBits) :
    (unpackExponent bits).toNat = bits.toNat / Word.count 52 % Word.count 11 := by
  simp [unpackExponent, BitVec.extractLsb_toNat, Nat.shiftRight_eq_div_pow, Word.count]

theorem toNat_unpackMantissa (bits : BitVec Format.binary64.numBits) :
    (unpackMantissa bits).toNat = bits.toNat % Word.count 52 := by
  simp [unpackMantissa, BitVec.extractLsb_toNat, Word.count]

theorem toNat_unpackSign (bits : BitVec Format.binary64.numBits) :
    (unpackSign bits).toNat = bits.toNat / Word.count 63 % 2 := by
  change (BitVec.extractLsb 63 63 bits).toNat = _
  simp [BitVec.extractLsb_toNat, Nat.shiftRight_eq_div_pow, Word.count]

/-- The sign of a pattern of bits. -/
def signOf (bits : Nat) : Sign :=
  if bits < Word.count 63 then .positive else .negative

theorem ofBitVec_unpackSign (bits : BitVec Format.binary64.numBits) :
    Sign.ofBitVec (unpackSign bits) = signOf bits.toNat := by
  have bound : bits.toNat < Word.count 64 := bits.isLt
  have value := toNat_unpackSign bits
  have isZero : unpackSign bits = 0#1 ↔ bits.toNat < Word.count 63 := by
    rw [← BitVec.toNat_inj, value]
    simp only [Word.count, Nat.reduceShiftLeft, BitVec.toNat_ofNat] at bound ⊢
    omega
  simp only [Sign.ofBitVec, signOf, isZero]

/-- The size of a pattern of bits is put together from its exponent and its mantissa. -/
theorem mod_eq_fields (bits : BitVec Format.binary64.numBits) :
    bits.toNat % Word.count 63 =
      (unpackExponent bits).toNat * Word.count 52 + (unpackMantissa bits).toNat := by
  have bound : bits.toNat < Word.count 64 := bits.isLt
  rw [toNat_unpackExponent, toNat_unpackMantissa]
  simp only [Word.count, Nat.reduceShiftLeft] at bound ⊢
  omega

/-- The leading bit of a mantissa that is not written down. -/
theorem toNat_leading_append (mantissa : BitVec 52) :
    (1#1 ++ mantissa).toNat = Word.count 52 + mantissa.toNat := by
  rw [BitVec.toNat_append, ← Nat.shiftLeft_add_eq_or_of_lt mantissa.isLt]
  rfl

/-- What a number is that is written with a sign and a size. -/
structure IsReading (sign : Sign) (size : Int) (number : UnpackedFloat) : Prop where
  hasPlace_iff : HasPlace number ↔ size ≤ infiniteSize
  isFinite_iff : number.isFinite ↔ size < infiniteSize
  place_eq : HasPlace number → place number = sign.apply size
  eq_notANumber : ¬ HasPlace number → number = .notANumber

theorem isReading_infinity (sign : Sign) : IsReading sign infiniteSize (.infinity sign) where
  hasPlace_iff := ⟨fun _ => Int.le_refl _, fun _ => trivial⟩
  isFinite_iff := ⟨fun finite => Bool.noConfusion finite, fun lt => absurd lt (Int.lt_irrefl _)⟩
  place_eq _ := rfl
  eq_notANumber placeless := absurd trivial placeless

theorem isReading_notANumber (sign : Sign) {size : Int} (large : infiniteSize < size) :
    IsReading sign size .notANumber where
  hasPlace_iff := ⟨False.elim, fun le => absurd large (Int.not_lt.mpr le)⟩
  isFinite_iff := ⟨fun finite => Bool.noConfusion finite, fun lt => absurd large (Int.lt_asymm lt)⟩
  place_eq placed := placed.elim
  eq_notANumber _ := rfl

theorem isReading_zero (sign : Sign) : IsReading sign 0 (.zero sign) where
  hasPlace_iff := ⟨fun _ => by decide, fun _ => trivial⟩
  isFinite_iff := ⟨fun _ => by decide, fun _ => rfl⟩
  place_eq _ := by cases sign <;> rfl
  eq_notANumber placeless := absurd trivial placeless

theorem isReading_finite (sign : Sign) {mantissa : Nat} {exponent size : Int}
    (form : IsNormalForm mantissa exponent) (same : size = finiteSize mantissa exponent) :
    IsReading sign size (.finite sign mantissa exponent form.mantissa_pos) := by
  subst same
  exact
    { hasPlace_iff := ⟨fun _ => Int.le_of_lt form.finiteSize_lt, fun _ => form⟩
      isFinite_iff := ⟨fun _ => form.finiteSize_lt, fun _ => rfl⟩
      place_eq := fun _ => rfl
      eq_notANumber := fun placeless => absurd form placeless }

/-- A pattern of bits stands for the number that has its sign and its size. -/
theorem isReading_unpack (bits : BitVec Format.binary64.numBits) :
    IsReading (signOf bits.toNat) (bits.toNat % Word.count 63 : Nat)
      (unpack Format.binary64 bits) := by
  have mantissaLt : (unpackMantissa bits).toNat < Word.count 52 := (unpackMantissa bits).isLt
  have exponentLt : (unpackExponent bits).toNat < Word.count 11 := (unpackExponent bits).isLt
  have bias : ((Format.binary64.exponentBias : Nat) : Int) = 1023 := rfl
  have isGreatest : unpackExponent bits = -1#_ ↔ (unpackExponent bits).toNat = 2047 := by
    rw [← BitVec.toNat_inj]
    rfl
  have isLeast : unpackExponent bits = 0#_ ↔ (unpackExponent bits).toNat = 0 := by
    rw [← BitVec.toNat_inj]
    rfl
  have isEmpty : unpackMantissa bits = 0#_ ↔ (unpackMantissa bits).toNat = 0 := by
    rw [← BitVec.toNat_inj]
    rfl
  rw [mod_eq_fields]
  unfold unpack
  dsimp only
  rw [ofBitVec_unpackSign]
  by_cases greatest : (unpackExponent bits).toNat = 2047
  · rw [if_pos (isGreatest.mpr greatest), greatest]
    by_cases empty : (unpackMantissa bits).toNat = 0
    · rw [if_pos (isEmpty.mpr empty), empty]
      exact isReading_infinity _
    · rw [if_neg fun none => empty (isEmpty.mp none)]
      refine isReading_notANumber _ ?_
      simp only [infiniteSize]
      omega
  · rw [if_neg fun all => greatest (isGreatest.mp all)]
    by_cases least : (unpackExponent bits).toNat = 0
    · rw [if_pos (isLeast.mpr least)]
      by_cases empty : (unpackMantissa bits).toNat = 0
      · rw [dif_pos (isEmpty.mpr empty), least, empty]
        exact isReading_zero _
      · rw [dif_neg fun none => empty (isEmpty.mp none)]
        have form : IsNormalForm (unpackMantissa bits).toNat
            ((unpackExponent bits).toNat - (Format.binary64.exponentBias +
              Format.binary64.mantissaBitsWithoutImplicit) + 1) := by
          constructor <;> simp only [bias, Word.count, Nat.reduceShiftLeft] at * <;> omega
        refine isReading_finite _ form ?_
        simp only [finiteSize, bias, least]
        omega
    · rw [if_neg fun none => least (isLeast.mp none)]
      have leading := toNat_leading_append (unpackMantissa bits)
      have form : IsNormalForm (1#1 ++ unpackMantissa bits).toNat
          ((unpackExponent bits).toNat - (Format.binary64.exponentBias +
            Format.binary64.mantissaBitsWithoutImplicit)) := by
        rw [leading]
        constructor <;> simp only [bias, Word.count, Nat.reduceShiftLeft] at * <;> omega
      refine isReading_finite _ form ?_
      rw [leading]
      simp only [finiteSize, bias, Word.count, Nat.reduceShiftLeft]
      omega

/-! ## Ranks -/

/-- Where a machine number stands in the order of all. -/
def rank (x : Float) : Int :=
  (signOf x.toBits.toNat).apply (x.toBits.toNat % Word.count 63 : Nat)

/-- A machine number stands in the order at its rank, which takes that it is defined. -/
def HasRank (x : Float) : Prop :=
  -infiniteSize ≤ rank x ∧ rank x ≤ infiniteSize

theorem isReading_toModel (x : Float) :
    IsReading (signOf x.toBits.toNat) (x.toBits.toNat % Word.count 63 : Nat) x.toModel.unpack :=
  isReading_unpack x.toBits.toBitVec

theorem hasRank_iff_hasPlace (x : Float) : HasRank x ↔ HasPlace x.toModel.unpack := by
  rw [(isReading_toModel x).hasPlace_iff, HasRank, rank]
  have nonneg := Int.natCast_nonneg (x.toBits.toNat % Word.count 63)
  cases signOf x.toBits.toNat <;> simp only [Sign.apply] <;> omega

/-- The finite numbers lie strictly between the infinite ones. -/
theorem isFinite_iff {x : Float} :
    x.isFinite ↔ -infiniteSize < rank x ∧ rank x < infiniteSize := by
  have finite : x.isFinite ↔ ((x.toBits.toNat % Word.count 63 : Nat) : Int) < infiniteSize :=
    (isReading_toModel x).isFinite_iff
  rw [finite, rank]
  have nonneg := Int.natCast_nonneg (x.toBits.toNat % Word.count 63)
  cases signOf x.toBits.toNat <;> simp only [Sign.apply] <;> omega

theorem compare_unpack {x y : Float} (rankedX : HasRank x) (rankedY : HasRank y) :
    x.toModel.unpack.compare y.toModel.unpack = some (compare (rank x) (rank y)) := by
  rw [hasRank_iff_hasPlace] at rankedX rankedY
  rw [compare_eq rankedX rankedY, (isReading_toModel x).place_eq rankedX,
    (isReading_toModel y).place_eq rankedY]
  rfl

/-- An undefined number compares to none. -/
theorem compare_unpack_eq_none {x y : Float} (unranked : ¬ (HasRank x ∧ HasRank y)) :
    x.toModel.unpack.compare y.toModel.unpack = none := by
  simp only [hasRank_iff_hasPlace] at unranked
  by_cases placed : HasPlace x.toModel.unpack
  · have placeless : ¬ HasPlace y.toModel.unpack := fun placedY => unranked ⟨placed, placedY⟩
    rw [(isReading_toModel y).eq_notANumber placeless]
    cases x.toModel.unpack with
    | notANumber | zero => rfl
    | infinity sign | finite sign => cases sign <;> rfl
  · rw [(isReading_toModel x).eq_notANumber placed]
    rfl

/-- Defined numbers compare as their ranks do, and all others not at all. -/
theorem compare_unpack_eq_some_iff {x y : Float} {outcome : Ordering} :
    x.toModel.unpack.compare y.toModel.unpack = some outcome ↔
      (HasRank x ∧ HasRank y) ∧ compare (rank x) (rank y) = outcome := by
  by_cases ranked : HasRank x ∧ HasRank y
  · rw [compare_unpack ranked.1 ranked.2, Option.some_inj, and_iff_right ranked]
  · rw [compare_unpack_eq_none ranked]
    simp [ranked]

theorem le_iff {x y : Float} : x ≤ y ↔ (HasRank x ∧ HasRank y) ∧ rank x ≤ rank y := by
  have test : x ≤ y ↔ (x.toModel.unpack.compare y.toModel.unpack).any (·.isLE) :=
    decide_eq_true_iff
  rw [test, Option.any_eq_true]
  simp only [compare_unpack_eq_some_iff, ← Int.isLE_compare]
  constructor
  · rintro ⟨outcome, ⟨ranked, rfl⟩, isLE⟩
    exact ⟨ranked, isLE⟩
  · rintro ⟨ranked, isLE⟩
    exact ⟨_, ⟨ranked, rfl⟩, isLE⟩

theorem lt_iff {x y : Float} : x < y ↔ (HasRank x ∧ HasRank y) ∧ rank x < rank y := by
  have test : x < y ↔ x.toModel.unpack.compare y.toModel.unpack = some .lt :=
    decide_eq_true_iff.trans beq_iff_eq
  rw [test, compare_unpack_eq_some_iff, Int.compare_eq_lt]

theorem beq_iff {x y : Float} : x == y ↔ (HasRank x ∧ HasRank y) ∧ rank x = rank y := by
  have test : x == y ↔ x.toModel.unpack.compare y.toModel.unpack = some .eq :=
    beq_iff_eq (b := some Ordering.eq)
  rw [test, compare_unpack_eq_some_iff, Std.compare_eq_iff_eq]

end JunctionReplay.Machine
