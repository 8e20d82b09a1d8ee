import JunctionReplay.Proofs.Scalar.Monotone

/-!
# Reciprocals of machine numbers

The reciprocal of a positive number falls as the number grows, rounded or not.  So the numbers
whose reciprocal stays below a bound are all those above some number, and two numbers next to each
other are enough to find out which: `reciprocal_lt_iff` reads the bound off their reciprocals.

A reciprocal is not always finite.  The least positive numbers are further from one than the
greatest finite one is.

## Main Statements

* `Machine.reciprocal_le_reciprocal` — reciprocals fall.
* `Machine.reciprocal_pos` — reciprocals are positive.
* `Machine.isFinite_reciprocal_iff` — whose reciprocal is finite.
* `Machine.reciprocal_lt_count_iff` — whose reciprocal lies below the number of words of 64 bits.
-/

namespace JunctionReplay.Machine

variable {x y : Float}

/-! ## The order of reciprocals -/

theorem isFinite_one : (1 : Float).isFinite := by decide

theorem exactValue_one : exactValue 1 = 1 := by decide +kernel

/-- The reciprocal of a positive number is the machine number nearest to the exact one. -/
theorem isNearestSize_reciprocal (positive : 0 < x) (finite : x.isFinite) :
    IsNearestSize (1 / exactValue x) (rank (1 / x)) := by
  have quotient := isNearestSize_div isFinite_one finite (by decide) positive
  rwa [exactValue_one] at quotient

theorem reciprocal_le_reciprocal (positive : 0 < x) (finite : y.isFinite) (le : x ≤ y) :
    1 / y ≤ 1 / x := by
  have positiveY : 0 < y := Scalar.lt_of_lt_of_le positive le
  have finiteX : x.isFinite :=
    OrderedScalar.isFinite_of_le_of_le OrderedScalar.isFinite_zero finite
      (Scalar.le_of_lt positive) le
  have nearestX := isNearestSize_reciprocal positive finiteX
  have nearestY := isNearestSize_reciprocal positiveY finite
  have falls : 1 / exactValue y ≤ 1 / exactValue x :=
    one_div_le_one_div_of_le (exactValue_pos positive) (exactValue_le le)
  exact le_iff.mpr ⟨⟨hasRank_of_isNearestSize nearestY, hasRank_of_isNearestSize nearestX⟩,
    nearestY.mono nearestX falls⟩

/-- The greatest finite number. -/
def greatest : Float := Float.ofBits 0x7FEFFFFFFFFFFFFF

theorem le_greatest (finite : x.isFinite) : x ≤ greatest := by
  have ranked := hasRank_of_isFinite finite
  have below := (isFinite_iff.mp finite).2
  have greatestRanked : HasRank greatest := hasRank_of_isFinite (by decide)
  refine le_iff.mpr ⟨⟨ranked, greatestRanked⟩, ?_⟩
  have last : rank greatest = infiniteSize - 1 := by decide
  omega

/-- The reciprocal of a finite number is positive, since that of the greatest one is. -/
theorem reciprocal_pos (positive : 0 < x) (finite : x.isFinite) : 0 < 1 / x := by
  have greatestPos : 0 < 1 / greatest := by decide +kernel
  exact Scalar.lt_of_lt_of_le greatestPos
    (reciprocal_le_reciprocal positive (by decide) (le_greatest finite))

/-! ## Numbers with a reciprocal below a bound -/

section Bounds

variable {last next bound : Float}

/-- What lies above a number is at least the next one. -/
theorem le_of_rank_eq_add_one (ranked : HasRank next) (adjacent : rank next = rank last + 1)
    (lt : last < x) : next ≤ x := by
  have order := lt_iff.mp lt
  refine le_iff.mpr ⟨⟨ranked, order.1.2⟩, ?_⟩
  have above := order.2
  omega

/-- If a bound lies between the reciprocals of a number and of the next one, the reciprocals below
it are those of the numbers from the next one on. -/
theorem reciprocal_lt_iff (lastFinite : last.isFinite) (nextPos : 0 < next)
    (adjacent : rank next = rank last + 1) (reached : bound ≤ 1 / last) (kept : 1 / next < bound)
    (positive : 0 < x) (finite : x.isFinite) :
    1 / x < bound ↔ exactValue last < exactValue x := by
  have lastNumber := isNumber_iff.mpr (hasRank_of_isFinite lastFinite)
  have number := isNumber_iff.mpr (hasRank_of_isFinite finite)
  rw [exactValue_lt_iff lastNumber number]
  constructor
  · intro below
    refine Scalar.lt_of_not_le lastNumber number fun le => ?_
    have falls : 1 / last ≤ 1 / x := reciprocal_le_reciprocal positive lastFinite le
    exact Scalar.not_lt_of_le (OrderedScalar.le_trans reached falls) below
  · intro above
    have nextLe : next ≤ x := le_of_rank_eq_add_one (lt_iff.mp nextPos).1.2 adjacent above
    exact Scalar.lt_of_le_of_lt (reciprocal_le_reciprocal nextPos finite nextLe) kept

end Bounds

/-- A number that is not negative is finite if it lies below the infinite one. -/
theorem isFinite_iff_lt_infinity (nonneg : 0 ≤ x) : x.isFinite ↔ x < infinity := by
  have infiniteRank : rank infinity = infiniteSize := by decide
  have ranked := (le_iff.mp nonneg).1.2
  have rank_nonneg : 0 ≤ rank x := (le_iff.mp nonneg).2
  have infinite : 0 < infiniteSize := by decide
  rw [isFinite_iff, lt_iff, infiniteRank]
  constructor
  · intro bounds
    exact ⟨⟨ranked, hasRank_of_infinite infiniteRank⟩, bounds.2⟩
  · intro below
    exact ⟨by omega, below.2⟩

/-- The reciprocal of a positive number is finite exactly above the 1024th negative power of two. -/
theorem isFinite_reciprocal_iff (positive : 0 < x) (finite : x.isFinite) :
    (1 / x).isFinite ↔ (2 : Rat) ^ (-1024 : Int) < exactValue x := by
  let last := Float.ofBits 0x0004000000000000
  let next := Float.ofBits 0x0004000000000001
  have value : exactValue last = (2 : Rat) ^ (-1024 : Int) := by decide +kernel
  have nextPos : 0 < next := by decide
  have reached : infinity ≤ 1 / last := by decide +kernel
  have kept : 1 / next < infinity := by decide +kernel
  rw [isFinite_iff_lt_infinity (Scalar.le_of_lt (reciprocal_pos positive finite)), ← value]
  exact reciprocal_lt_iff (by decide) nextPos (by decide) reached kept positive finite

/-- The reciprocal of a positive number is less than the number of words of 64 bits exactly above
the 64th negative power of two. -/
theorem reciprocal_lt_count_iff (positive : 0 < x) (finite : x.isFinite) :
    1 / x < (Word.count 64 : Nat) ↔ (2 : Rat) ^ (-64 : Int) < exactValue x := by
  let last := Float.ofBits 0x3BF0000000000000
  let next := Float.ofBits 0x3BF0000000000001
  have value : exactValue last = (2 : Rat) ^ (-64 : Int) := by decide +kernel
  have nextPos : 0 < next := by decide
  have reached : ((Word.count 64 : Nat) : Float) ≤ 1 / last := by decide +kernel
  have kept : 1 / next < (Word.count 64 : Nat) := by decide +kernel
  rw [← value]
  exact reciprocal_lt_iff (by decide) nextPos (by decide) reached kept positive finite

end JunctionReplay.Machine
