import JunctionReplay.Proofs.Scalar.Arithmetic

/-!
# Laws of the arithmetic of scalars

What arithmetic on numbers that are not negative keeps of the order, whether it rounds or not.
`MonotoneScalar` states it: sums do not fall below their first part, products are not negative, and
quotients grow with the number that is divided.  Rounding keeps all of that because it is monotone,
even where a result leaves the finite numbers; the laws that need exact results, such as
associativity, are not among them.

## Main Definitions

* `MonotoneScalar` — the laws, with instances for machine numbers and exact ones.
-/

namespace JunctionReplay

open Scalar (IsNumber)

/-- A scalar type whose arithmetic on numbers that are not negative is monotone. -/
class MonotoneScalar (α : Type) [Scalar α] : Prop extends OrderedScalar α where
  le_add {a b : α} : 0 ≤ a → 0 ≤ b → a ≤ a + b
  mul_nonneg {a b : α} :
    Scalar.isFinite a → Scalar.isFinite b → 0 ≤ a → 0 ≤ b → 0 ≤ a * b
  div_le_div {a b c : α} : 0 ≤ a → a ≤ b → 0 < c → Scalar.isFinite c → a / c ≤ b / c
  one_le_div {a b : α} : b ≤ a → 0 < b → Scalar.isFinite b → 1 ≤ a / b
  zero_le_one : (0 : α) ≤ 1
  eq_one_of_le_of_le {a : α} : 1 ≤ a → a ≤ 1 → a = 1

namespace Machine

variable {x y z : Float}

theorem hasRank_of_isNearestSize {exact : Rat} (nearest : IsNearestSize exact (rank x)) :
    HasRank x := by
  have lower := nearest.nonneg
  have infinite : 0 ≤ infiniteSize := by decide
  exact ⟨by omega, nearest.le_infiniteSize⟩

theorem hasRank_of_infinite (infinite : rank x = infiniteSize) : HasRank x := by
  rw [HasRank, infinite]
  decide

/-- A number that is not zero has its rank to itself. -/
theorem eq_of_rank_eq (positive : 0 < rank x) (same : rank x = rank y) : x = y := by
  have bits (w : Float) (above : 0 < rank w) : (w.toBits.toNat : Int) = rank w := by
    by_cases first : w.toBits.toNat < Word.count 63
    · rw [rank, signOf, if_pos first, Nat.mod_eq_of_lt first]
      rfl
    · rw [rank, signOf, if_neg first] at above
      exact absurd above (by simp only [Float.Model.UnpackedFloat.Sign.apply]; omega)
  have sameBits : x.toBits.toNat = y.toBits.toNat := by
    have bitsX := bits x positive
    have bitsY := bits y (same ▸ positive)
    omega
  obtain ⟨⟨bitsX, _⟩⟩ := x
  obtain ⟨⟨bitsY, _⟩⟩ := y
  obtain rfl : bitsX = bitsY := UInt64.toNat_inj.mp sameBits
  rfl

/-- A sum of numbers that are not negative is at least each of them. -/
theorem le_sum (nonnegX : 0 ≤ x) (nonnegY : 0 ≤ y) : x ≤ x + y ∧ y ≤ x + y := by
  have rankedX := (le_iff.mp nonnegX).1.2
  have rankedY := (le_iff.mp nonnegY).1.2
  by_cases finite : x.isFinite ∧ y.isFinite
  · obtain ⟨finiteX, finiteY⟩ := finite
    have sum := isNearestSize_add finiteX finiteY nonnegX nonnegY
    have rankedSum := hasRank_of_isNearestSize sum
    have growsX : exactValue x ≤ exactValue x + exactValue y :=
      le_add_of_nonneg_right (holds_unpack finiteY nonnegY).nonneg
    have growsY : exactValue y ≤ exactValue x + exactValue y :=
      le_add_of_nonneg_left (holds_unpack finiteX nonnegX).nonneg
    exact ⟨le_iff.mpr ⟨⟨rankedX, rankedSum⟩, (isNearestSize_rank finiteX nonnegX).mono sum growsX⟩,
      le_iff.mpr ⟨⟨rankedY, rankedSum⟩, (isNearestSize_rank finiteY nonnegY).mono sum growsY⟩⟩
  · have infinite := rank_add_of_not_isFinite finite nonnegX nonnegY
    have rankedSum := hasRank_of_infinite infinite
    exact ⟨le_iff.mpr ⟨⟨rankedX, rankedSum⟩, infinite ▸ rankedX.2⟩,
      le_iff.mpr ⟨⟨rankedY, rankedSum⟩, infinite ▸ rankedY.2⟩⟩

theorem product_nonneg (finiteX : x.isFinite) (finiteY : y.isFinite) (nonnegX : 0 ≤ x)
    (nonnegY : 0 ≤ y) : 0 ≤ x * y := by
  have product := isNearestSize_mul finiteX finiteY nonnegX nonnegY
  have zero := (le_iff.mp nonnegX).1.1
  exact le_iff.mpr ⟨⟨zero, hasRank_of_isNearestSize product⟩, product.nonneg⟩

section

variable (positive : 0 < z) (finite : z.isFinite)

include positive finite

theorem hasRank_quotient (nonneg : 0 ≤ x) : HasRank (x / z) := by
  by_cases finiteX : x.isFinite
  · exact hasRank_of_isNearestSize (isNearestSize_div finiteX finite nonneg positive)
  · exact hasRank_of_infinite (rank_div_of_not_isFinite finiteX nonneg finite positive)

theorem quotient_le_quotient (nonneg : 0 ≤ x) (le : x ≤ y) : x / z ≤ y / z := by
  have nonnegY := OrderedScalar.le_trans nonneg le
  have rankedX := hasRank_quotient positive finite nonneg
  refine le_iff.mpr ⟨⟨rankedX, hasRank_quotient positive finite nonnegY⟩, ?_⟩
  by_cases finiteY : y.isFinite
  · have finiteX : x.isFinite :=
      OrderedScalar.isFinite_of_le_of_le OrderedScalar.isFinite_zero finiteY nonneg le
    have shares : exactValue x / exactValue z ≤ exactValue y / exactValue z :=
      div_le_div_of_nonneg_right (exactValue_le le) (exactValue_pos positive).le
    exact (isNearestSize_div finiteX finite nonneg positive).mono
      (isNearestSize_div finiteY finite nonnegY positive) shares
  · rw [rank_div_of_not_isFinite finiteY nonnegY finite positive]
    exact rankedX.2

theorem one_le_quotient (le : z ≤ x) : 1 ≤ x / z := by
  have nonneg := OrderedScalar.le_trans (Scalar.le_of_lt positive) le
  have ranked := hasRank_quotient positive finite nonneg
  have finiteOne : (1 : Float).isFinite := by decide
  have nonnegOne : (0 : Float) ≤ 1 := by decide
  refine le_iff.mpr ⟨⟨hasRank_of_isFinite finiteOne, ranked⟩, ?_⟩
  by_cases finiteX : x.isFinite
  · have valueOne : exactValue 1 = 1 := by decide +kernel
    have shares : exactValue 1 ≤ exactValue x / exactValue z := by
      rw [valueOne, one_le_div (exactValue_pos positive)]
      exact exactValue_le le
    exact (isNearestSize_rank finiteOne nonnegOne).mono
      (isNearestSize_div finiteX finite nonneg positive) shares
  · rw [rank_div_of_not_isFinite finiteX nonneg finite positive]
    exact (hasRank_of_isFinite finiteOne).2

end

end Machine

instance : MonotoneScalar Float where
  le_add nonnegA nonnegB := (Machine.le_sum nonnegA nonnegB).1
  mul_nonneg := Machine.product_nonneg
  div_le_div nonneg le positive finite := Machine.quotient_le_quotient positive finite nonneg le
  one_le_div le positive finite := Machine.one_le_quotient positive finite le
  zero_le_one := by decide
  eq_one_of_le_of_le {a} lower upper := by
    have same := Int.le_antisymm (Machine.le_iff.mp lower).2 (Machine.le_iff.mp upper).2
    exact (Machine.eq_of_rank_eq (by decide) same).symm

instance : MonotoneScalar Rat where
  le_add _ nonneg := le_add_of_nonneg_right nonneg
  mul_nonneg _ _ := mul_nonneg
  div_le_div _ le positive _ := div_le_div_of_nonneg_right le positive.le
  one_le_div le positive _ := (one_le_div positive).mpr le
  zero_le_one := zero_le_one
  eq_one_of_le_of_le lower upper := le_antisymm upper lower

end JunctionReplay
