import JunctionReplay.Proofs.Scalar.ExactValue
import JunctionReplay.Proofs.Scalar.RoundedNumbers

/-!
# Arithmetic of machine numbers

Sums, products and quotients of machine numbers that are not negative.  Between finite numbers the
result is the machine number nearest to the exact sum, product or quotient of their values, so it
keeps whatever comparison the exact results have.  Beyond them, an infinite number only takes part
where it stands for the size of the other operand.

The replay adds up times and takes a share of a whole, so these are the operations it needs, and
the numbers that it computes with are not negative.

## Main Definitions

* `Machine.Holds` — the parts of a finite number that is not negative, with its exact value.

## Main Statements

* `Machine.holds_unpack` — every such machine number has such parts.
* `Machine.isNearestSize_add`, `Machine.isNearestSize_mul`, `Machine.isNearestSize_div` — results
  are nearest to the exact ones.
-/

namespace JunctionReplay.Machine

open Float.Model (Format UnpackedFloat)
open Float.Model.UnpackedFloat

/-! ## Parts of a number -/

/-- The parts of a finite number that is not negative, with its exact value. -/
inductive Holds : Rat → UnpackedFloat → Prop where
  | zero (sign : Sign) : Holds 0 (.zero sign)
  | finite {mantissa : Nat} {exponent : Int} (form : IsNormalForm mantissa exponent) :
      Holds (mantissa * 2 ^ exponent) (.finite .positive mantissa exponent form.mantissa_pos)

section

variable {x y : Rat} {a b : UnpackedFloat}

theorem Holds.nonneg (holds : Holds x a) : 0 ≤ x := by
  cases holds with
  | zero => exact le_rfl
  | finite => positivity

theorem Holds.isNearestSize_place (holds : Holds x a) : IsNearestSize x (place a) := by
  cases holds with
  | zero => exact isNearestSize_zero
  | finite form => exact isNearestSize_finiteSize form

end

/-- The size of a number in normal form takes as many steps as its parts say. -/
theorem stepsOfSize_finiteSize {mantissa : Nat} {exponent : Int}
    (form : IsNormalForm mantissa exponent) :
    stepsOfSize (finiteSize mantissa exponent).natAbs = mantissa <<< (exponent + 1074).toNat := by
  obtain ⟨-, bound, least, -, leading⟩ := form
  obtain ⟨scale, scale_eq⟩ : ∃ scale : Nat, (exponent + 1074).toNat = scale := ⟨_, rfl⟩
  have size : (finiteSize mantissa exponent).natAbs = scale * Word.count 52 + mantissa := by
    simp only [finiteSize, Word.count, Nat.reduceShiftLeft]
    omega
  rw [scale_eq, size, stepsOfSize]
  by_cases normal : Word.count 52 ≤ mantissa
  · have quotient : (scale * Word.count 52 + mantissa) / Word.count 52 = scale + 1 := by
      simp only [Word.count, Nat.reduceShiftLeft] at bound normal ⊢
      omega
    have remainder : Word.count 52 + (scale * Word.count 52 + mantissa) % Word.count 52 =
        mantissa := by
      simp only [Word.count, Nat.reduceShiftLeft] at bound normal ⊢
      omega
    rw [quotient, if_neg (Nat.succ_ne_zero scale), remainder, Nat.succ_sub_one]
  · have isLeast : scale = 0 := by omega
    have quotient : (0 * Word.count 52 + mantissa) / Word.count 52 = 0 := by
      simp only [Word.count, Nat.reduceShiftLeft] at normal ⊢
      omega
    rw [isLeast, if_pos quotient, Nat.zero_mul, Nat.zero_add, Nat.shiftLeft_zero]

/-- The steps of a number in normal form, counted in units of the least size. -/
theorem stepsAt_finiteSize {mantissa : Nat} {exponent : Int}
    (form : IsNormalForm mantissa exponent) :
    (stepsAt (finiteSize mantissa exponent) : Rat) / (Word.count 1074 : Nat) =
      mantissa * 2 ^ exponent := by
  have notNegative : ¬ finiteSize mantissa exponent < 0 :=
    Int.not_lt.mpr (Int.le_of_lt form.finiteSize_pos)
  obtain ⟨scale, scale_eq⟩ : ∃ scale : Nat, exponent = scale - (1074 : Nat) :=
    ⟨(exponent + 1074).toNat, by have least := form.least_le; omega⟩
  have places : (exponent + 1074).toNat = scale := by omega
  rw [stepsAt, if_neg notNegative, stepsOfSize_finiteSize form, places, Int.cast_natCast,
    Nat.shiftLeft_eq, Nat.cast_mul, Nat.cast_pow, Nat.cast_ofNat, natCast_count, scale_eq,
    zpow_sub₀ two_ne_zero, zpow_natCast, zpow_natCast, mul_div_assoc]

/-- A finite machine number that is not negative has parts, and they have its value. -/
theorem holds_unpack {x : Float} (finite : x.isFinite) (nonneg : 0 ≤ x) :
    Holds (exactValue x) x.toModel.unpack := by
  have placed := (hasRank_iff_hasPlace x).mp (hasRank_of_isFinite finite)
  have place_eq : place x.toModel.unpack = rank x := (isReading_toModel x).place_eq placed
  have rank_nonneg : 0 ≤ rank x := (le_iff.mp nonneg).2
  rw [exactValue_eq, ← place_eq]
  rw [← place_eq] at rank_nonneg
  have finite' : x.toModel.unpack.isFinite := finite
  generalize x.toModel.unpack = number at *
  cases number with
  | notANumber => exact placed.elim
  | infinity sign => cases finite'
  | zero sign =>
      have value : (stepsAt 0 : Rat) / (Word.count 1074 : Nat) = 0 := zero_div _
      change Holds (stepsAt 0 / (Word.count 1074 : Nat)) _
      rw [value]
      exact .zero sign
  | finite sign mantissa exponent positive =>
      have form : IsNormalForm mantissa exponent := placed
      cases sign with
      | negative =>
          have nonneg : (0 : Int) ≤ -finiteSize mantissa exponent := rank_nonneg
          exact absurd form.finiteSize_pos (by omega)
      | positive =>
          change Holds (stepsAt (finiteSize mantissa exponent) / (Word.count 1074 : Nat)) _
          rw [stepsAt_finiteSize form]
          exact .finite form

/-- Its size is that of its value. -/
theorem isNearestSize_rank {x : Float} (finite : x.isFinite) (nonneg : 0 ≤ x) :
    IsNearestSize (exactValue x) (rank x) := by
  have placed := (hasRank_iff_hasPlace x).mp (hasRank_of_isFinite finite)
  have place_eq : place x.toModel.unpack = rank x := (isReading_toModel x).place_eq placed
  rw [← place_eq]
  exact (holds_unpack finite nonneg).isNearestSize_place

/-- A number that is neither finite nor negative is the infinite one. -/
theorem unpack_of_not_isFinite {x : Float} (infinite : ¬ x.isFinite) (nonneg : 0 ≤ x) :
    x.toModel.unpack = .infinity .positive := by
  have ranked := (le_iff.mp nonneg).1.2
  have placed := (hasRank_iff_hasPlace x).mp ranked
  have place_eq : place x.toModel.unpack = rank x := (isReading_toModel x).place_eq placed
  have rank_nonneg : 0 ≤ rank x := (le_iff.mp nonneg).2
  have infinite' : ¬ x.toModel.unpack.isFinite := infinite
  rw [← place_eq] at rank_nonneg
  generalize x.toModel.unpack = number at *
  cases number with
  | notANumber => exact placed.elim
  | zero sign | finite sign => exact absurd rfl infinite'
  | infinity sign =>
      cases sign with
      | positive => rfl
      | negative => exact absurd rank_nonneg (by decide)

/-! ## Results -/

/-- The machine number that a result is written down as. -/
def written (result : UnpackedFloat) : Float :=
  Float.ofModel (.pack result)

section

variable {x y : Rat} {a b : UnpackedFloat}

/-- What is written down in the pattern of a size stands at that rank. -/
theorem rank_written (bound : ((pack Format.binary64 a).toNat : Int) ≤ infiniteSize) :
    rank (written a) = (pack Format.binary64 a).toNat := by
  have bits : (written a).toBits.toNat = (pack Format.binary64 a).toNat := rfl
  rw [rank, bits]
  generalize (pack Format.binary64 a).toNat = size at bound
  have positive : size < Word.count 63 := by
    simp only [infiniteSize, Word.count, Nat.reduceShiftLeft] at bound ⊢
    omega
  rw [signOf, if_pos positive, Nat.mod_eq_of_lt positive]
  rfl

/-- What is written down in the pattern of the nearest size is nearest. -/
theorem isNearestSize_written (nearest : IsNearestSize x (pack Format.binary64 a).toNat) :
    IsNearestSize x (rank (written a)) := by
  rw [rank_written nearest.le_infiniteSize]
  exact nearest

/-- A number in normal form stands at its size. -/
theorem rank_written_finite {mantissa : Nat} {exponent : Int}
    (form : IsNormalForm mantissa exponent) :
    rank (written (.finite .positive mantissa exponent form.mantissa_pos)) =
      finiteSize mantissa exponent := by
  have size := toNat_pack_finite form.mantissa_pos form.mantissa_lt form.least_le
    form.isLeast_or_leading
  rw [min_eq_left (le_of_lt form.finiteSize_lt)] at size
  rw [rank_written (size.trans_le (le_of_lt form.finiteSize_lt)), size]

/-- A result that is one of the operands keeps its size. -/
theorem Holds.isNearestSize_written (holds : Holds x a) : IsNearestSize x (rank (written a)) := by
  cases holds with
  | zero sign =>
      cases sign with
      | positive | negative => exact isNearestSize_zero
  | finite form =>
      rw [rank_written_finite form]
      exact isNearestSize_finiteSize form

theorem log2_shiftLeft {mantissa : Nat} (positive : 0 < mantissa) (places : Nat) :
    (mantissa <<< places).log2 = mantissa.log2 + places := by
  have moved : 0 < mantissa <<< places := by
    rw [Nat.shiftLeft_eq]
    positivity
  rw [Nat.log2_eq_iff moved.ne', Nat.shiftLeft_eq, Nat.pow_add, Nat.add_right_comm, Nat.pow_add]
  exact ⟨Nat.mul_le_mul_right _ (Nat.log2_self_le positive.ne'),
    Nat.mul_lt_mul_of_pos_right Nat.lt_log2_self (Nat.two_pow_pos places)⟩

/-- Moving a mantissa to a smaller exponent cuts nothing off. -/
theorem shiftLeft_mul_zpow (mantissa : Nat) {exponent target : Int} (le : target ≤ exponent) :
    (mantissa <<< (exponent - target).toNat : Nat) * (2 : Rat) ^ target =
      mantissa * 2 ^ exponent := by
  obtain ⟨places, rfl⟩ : ∃ places : Nat, exponent = target + places :=
    ⟨(exponent - target).toNat, by omega⟩
  rw [add_sub_cancel_left, Int.toNat_natCast, two_zpow_add, Nat.shiftLeft_eq, Nat.cast_mul,
    natCast_count, Nat.cast_pow, Nat.cast_ofNat, mul_assoc]

/-- A whole mantissa is rounded at its exponent. -/
theorem isNearestSize_round {mantissa : Nat} (positive : 0 < mantissa) (exponent : Int) :
    IsNearestSize (mantissa * 2 ^ exponent)
      (rank (written (round Format.binary64 .positive mantissa exponent))) := by
  obtain ⟨target, target_eq⟩ : ∃ target : Int,
      target = max ((mantissa.log2 : Int) + 1 + exponent - 53) (-1074) := ⟨_, rfl⟩
  obtain ⟨start, start_eq⟩ : ∃ start : Int, start = exponent - (exponent - target).toNat :=
    ⟨_, rfl⟩
  have moved : round Format.binary64 .positive mantissa exponent =
      roundWithAccuracy Format.binary64 .positive (mantissa <<< (exponent - start).toNat) start
        .exact := by
    have places : (exponent - start).toNat = (exponent - target).toNat := by omega
    rw [places, start_eq, target_eq]
    rfl
  have whole : (mantissa : Rat) * 2 ^ exponent / 2 ^ start =
      (mantissa <<< (exponent - start).toNat : Nat) := by
    rw [div_eq_iff (by positivity), shiftLeft_mul_zpow mantissa (by omega)]
  rw [moved]
  refine Machine.isNearestSize_written (isNearestSize_roundWithAccuracy ?_ ?_)
  · rw [whole]
    exact reads_exact _
  · rw [log2_shiftLeft positive]
    omega

theorem isNearestSize_written_zero (sign : Sign) :
    IsNearestSize 0 (rank (written (.zero sign))) :=
  (Holds.zero sign).isNearestSize_written

end

/-! ## Operations on numbers in normal form -/

section

variable {mantissa mantissa' : Nat} {exponent exponent' : Int}

/-- Both mantissas are brought to the smaller exponent, where they are added. -/
theorem add_finite (form : IsNormalForm mantissa exponent)
    (form' : IsNormalForm mantissa' exponent') :
    IsNearestSize (mantissa * 2 ^ exponent + mantissa' * 2 ^ exponent')
      (rank (written (UnpackedFloat.add Format.binary64
        (.finite .positive mantissa exponent form.mantissa_pos)
        (.finite .positive mantissa' exponent' form'.mantissa_pos)))) := by
  obtain ⟨shared, shared_eq⟩ : ∃ shared : Int, min exponent exponent' = shared := ⟨_, rfl⟩
  obtain ⟨total, total_eq⟩ : ∃ total : Nat, mantissa <<< (exponent - shared).toNat +
      mantissa' <<< (exponent' - shared).toNat = total := ⟨_, rfl⟩
  have positive : 0 < total := by
    have first := form.mantissa_pos
    rw [← total_eq, Nat.shiftLeft_eq]
    positivity
  have sum : UnpackedFloat.add Format.binary64
      (.finite .positive mantissa exponent form.mantissa_pos)
      (.finite .positive mantissa' exponent' form'.mantissa_pos) =
      round Format.binary64 .positive total shared := by
    have above : compare (total : Int) 0 = .gt := Int.compare_eq_gt.mpr (by omega)
    have started : UnpackedFloat.add Format.binary64
        (.finite .positive mantissa exponent form.mantissa_pos)
        (.finite .positive mantissa' exponent' form'.mantissa_pos) =
        UnpackedFloat.normalize Format.binary64 total shared .positive := by
      subst shared_eq total_eq
      rfl
    rw [started, UnpackedFloat.normalize, above]
    rfl
  have value : (mantissa : Rat) * 2 ^ exponent + mantissa' * 2 ^ exponent' =
      total * 2 ^ shared := by
    rw [← total_eq, Nat.cast_add, add_mul, shiftLeft_mul_zpow mantissa (by omega),
      shiftLeft_mul_zpow mantissa' (by omega)]
  rw [sum, value]
  exact isNearestSize_round positive shared

/-- One of two mantissas has its leading bit, unless both exponents are the least one. -/
theorem mul_finite (form : IsNormalForm mantissa exponent)
    (form' : IsNormalForm mantissa' exponent') :
    IsNearestSize (mantissa * 2 ^ exponent * (mantissa' * 2 ^ exponent'))
      (rank (written (UnpackedFloat.mul Format.binary64
        (.finite .positive mantissa exponent form.mantissa_pos)
        (.finite .positive mantissa' exponent' form'.mantissa_pos)))) := by
  have value : (mantissa : Rat) * 2 ^ exponent * (mantissa' * 2 ^ exponent') /
      2 ^ (exponent + exponent') = (mantissa * mantissa' : Nat) := by
    rw [zpow_add₀ two_ne_zero, Nat.cast_mul]
    field_simp
  refine isNearestSize_written (isNearestSize_roundWithAccuracy ?_ ?_)
  · rw [value]
    exact reads_exact _
  · have positive := form.mantissa_pos
    have positive' := form'.mantissa_pos
    rw [Nat.le_log2 (Nat.mul_pos positive positive').ne']
    rcases form.isLeast_or_leading with least | leading
    · rcases form'.isLeast_or_leading with least' | leading'
      · exact Or.inr (by omega)
      · exact Or.inl (le_trans leading' (Nat.le_mul_of_pos_left _ positive))
    · exact Or.inl (le_trans leading (Nat.le_mul_of_pos_right _ positive'))

/-- A mantissa that is moved far enough has a quotient with 53 places. -/
theorem le_log2_div (positive : 0 < mantissa) (positive' : 0 < mantissa') {places : Nat}
    (far : mantissa'.log2 + 53 ≤ mantissa.log2 + places) :
    52 ≤ (mantissa <<< places / mantissa').log2 := by
  have enough : 2 ^ 52 * mantissa' ≤ mantissa <<< places :=
    calc 2 ^ 52 * mantissa'
        ≤ 2 ^ 52 * 2 ^ (mantissa'.log2 + 1) := Nat.mul_le_mul_left _ (le_of_lt Nat.lt_log2_self)
      _ = 2 ^ (mantissa'.log2 + 53) := by rw [← Nat.pow_add]; congr 1; omega
      _ ≤ 2 ^ (mantissa.log2 + places) := Nat.pow_le_pow_right two_pos far
      _ = 2 ^ mantissa.log2 * 2 ^ places := Nat.pow_add _ _ _
      _ ≤ mantissa * 2 ^ places := Nat.mul_le_mul_right _ (Nat.log2_self_le positive.ne')
      _ = mantissa <<< places := (Nat.shiftLeft_eq _ _).symm
  have quotient : 2 ^ 52 ≤ mantissa <<< places / mantissa' :=
    (Nat.le_div_iff_mul_le positive').mpr enough
  exact (Nat.le_log2 (Nat.ne_of_gt (lt_of_lt_of_le (by decide) quotient))).mpr quotient

/-- The first mantissa is moved before it is divided by the second one. -/
theorem div_finite (form : IsNormalForm mantissa exponent)
    (form' : IsNormalForm mantissa' exponent') :
    IsNearestSize (mantissa * 2 ^ exponent / (mantissa' * 2 ^ exponent'))
      (rank (written (UnpackedFloat.div Format.binary64
        (.finite .positive mantissa exponent form.mantissa_pos)
        (.finite .positive mantissa' exponent' form'.mantissa_pos)))) := by
  have positive := form.mantissa_pos
  have positive' := form'.mantissa_pos
  obtain ⟨start, start_eq⟩ : ∃ start : Int, start = min (exponent - exponent')
      (max ((mantissa.log2 + 1 + exponent) - (mantissa'.log2 + 1 + exponent') - 53) (-1074)) :=
    ⟨_, rfl⟩
  obtain ⟨places, places_eq⟩ : ∃ places : Nat,
      places = (exponent - exponent' - start).toNat := ⟨_, rfl⟩
  have quotient : UnpackedFloat.div Format.binary64
      (.finite .positive mantissa exponent form.mantissa_pos)
      (.finite .positive mantissa' exponent' form'.mantissa_pos) =
      roundWithAccuracy Format.binary64 .positive (mantissa <<< places / mantissa') start
        (accuracyOfFraction (mantissa <<< places % mantissa') mantissa') := by
    subst places_eq start_eq
    rfl
  have value : (mantissa : Rat) * 2 ^ exponent / (mantissa' * 2 ^ exponent') / 2 ^ start =
      (mantissa <<< places : Nat) / mantissa' := by
    have moved : (mantissa <<< places : Nat) * (2 : Rat) ^ start =
        mantissa * 2 ^ (exponent - exponent') := by
      rw [places_eq]
      exact shiftLeft_mul_zpow mantissa (by omega)
    rw [mul_div_mul_comm, ← zpow_sub₀ two_ne_zero, div_mul_eq_mul_div, ← moved]
    field_simp
  rw [quotient]
  refine isNearestSize_written (isNearestSize_roundWithAccuracy ?_ ?_)
  · rw [value]
    exact reads_fraction _ positive'
  · by_cases least : start ≤ -1074
    · exact Or.inr least
    · exact Or.inl (le_log2_div positive positive' (by omega))

end

/-! ## Operations -/

section

variable {x y : Rat} {a b : UnpackedFloat}

/-- Sums are nearest to the exact ones. -/
theorem Holds.add (holdsX : Holds x a) (holdsY : Holds y b) :
    IsNearestSize (x + y) (rank (written (UnpackedFloat.add Format.binary64 a b))) := by
  cases holdsX with
  | zero sign =>
      rw [zero_add]
      cases holdsY with
      | zero sign' => cases sign <;> cases sign' <;> exact isNearestSize_written_zero _
      | finite form' => exact (Holds.finite form').isNearestSize_written
  | finite form =>
      cases holdsY with
      | zero sign' =>
          rw [add_zero]
          exact (Holds.finite form).isNearestSize_written
      | finite form' => exact add_finite form form'

/-- Products are nearest to the exact ones. -/
theorem Holds.mul (holdsX : Holds x a) (holdsY : Holds y b) :
    IsNearestSize (x * y) (rank (written (UnpackedFloat.mul Format.binary64 a b))) := by
  cases holdsX with
  | zero sign =>
      rw [zero_mul]
      cases holdsY with
      | zero sign' => exact isNearestSize_written_zero (sign * sign')
      | finite form' => exact isNearestSize_written_zero (sign * Sign.positive)
  | finite form =>
      cases holdsY with
      | zero sign' =>
          rw [mul_zero]
          exact isNearestSize_written_zero (Sign.positive * sign')
      | finite form' => exact mul_finite form form'

/-- Quotients by positive numbers are nearest to the exact ones. -/
theorem Holds.div (holdsX : Holds x a) (holdsY : Holds y b) (positive : 0 < y) :
    IsNearestSize (x / y) (rank (written (UnpackedFloat.div Format.binary64 a b))) := by
  cases holdsY with
  | zero sign' => exact absurd positive (lt_irrefl 0)
  | finite form' =>
      cases holdsX with
      | zero sign =>
          rw [zero_div]
          exact isNearestSize_written_zero (sign / Sign.positive)
      | finite form => exact div_finite form form'

theorem Holds.add_infinity (holds : Holds x a) (sign : Sign) :
    UnpackedFloat.add Format.binary64 a (.infinity sign) = .infinity sign := by
  cases holds with
  | zero | finite => rfl

theorem Holds.infinity_add (holds : Holds x a) (sign : Sign) :
    UnpackedFloat.add Format.binary64 (.infinity sign) a = .infinity sign := by
  cases holds with
  | zero | finite => rfl

theorem Holds.infinity_div (holds : Holds x a) (positive : 0 < x) (sign : Sign) :
    UnpackedFloat.div Format.binary64 (.infinity sign) a = .infinity sign := by
  cases holds with
  | zero => exact absurd positive (lt_irrefl 0)
  | finite => cases sign <;> rfl

end

/-! ## Machine numbers -/

section

variable {x y : Float}

theorem isNearestSize_add (finiteX : x.isFinite) (finiteY : y.isFinite) (nonnegX : 0 ≤ x)
    (nonnegY : 0 ≤ y) : IsNearestSize (exactValue x + exactValue y) (rank (x + y)) :=
  (holds_unpack finiteX nonnegX).add (holds_unpack finiteY nonnegY)

theorem isNearestSize_mul (finiteX : x.isFinite) (finiteY : y.isFinite) (nonnegX : 0 ≤ x)
    (nonnegY : 0 ≤ y) : IsNearestSize (exactValue x * exactValue y) (rank (x * y)) :=
  (holds_unpack finiteX nonnegX).mul (holds_unpack finiteY nonnegY)

theorem isNearestSize_div (finiteX : x.isFinite) (finiteY : y.isFinite) (nonnegX : 0 ≤ x)
    (positive : 0 < y) : IsNearestSize (exactValue x / exactValue y) (rank (x / y)) :=
  (holds_unpack finiteX nonnegX).div (holds_unpack finiteY (Scalar.le_of_lt positive))
    (exactValue_pos positive)

/-- A sum with an infinite number is infinite. -/
theorem rank_add_of_not_isFinite (infinite : ¬ (x.isFinite ∧ y.isFinite)) (nonnegX : 0 ≤ x)
    (nonnegY : 0 ≤ y) : rank (x + y) = infiniteSize := by
  change rank (written (UnpackedFloat.add Format.binary64 x.toModel.unpack y.toModel.unpack)) = _
  by_cases finiteX : x.isFinite
  · have infiniteY : ¬ y.isFinite := fun finiteY => infinite ⟨finiteX, finiteY⟩
    rw [unpack_of_not_isFinite infiniteY nonnegY, (holds_unpack finiteX nonnegX).add_infinity]
    rfl
  · rw [unpack_of_not_isFinite finiteX nonnegX]
    by_cases finiteY : y.isFinite
    · rw [(holds_unpack finiteY nonnegY).infinity_add]
      rfl
    · rw [unpack_of_not_isFinite finiteY nonnegY]
      rfl

/-- A quotient of an infinite number by a finite one is infinite. -/
theorem rank_div_of_not_isFinite (infinite : ¬ x.isFinite) (nonneg : 0 ≤ x)
    (finiteY : y.isFinite) (positive : 0 < y) : rank (x / y) = infiniteSize := by
  change rank (written (UnpackedFloat.div Format.binary64 x.toModel.unpack y.toModel.unpack)) = _
  rw [unpack_of_not_isFinite infinite nonneg,
    (holds_unpack finiteY (Scalar.le_of_lt positive)).infinity_div (exactValue_pos positive)]
  rfl

end

end JunctionReplay.Machine
