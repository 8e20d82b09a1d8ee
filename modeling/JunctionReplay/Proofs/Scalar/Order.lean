import JunctionReplay.Proofs.Scalar.MachineOrder
import JunctionReplay.Scalar.Exact

/-!
# Laws of the order of scalars

The order of a scalar type need not be total, since an undefined number is not comparable even to
itself.  `OrderedScalar` states what is left of the laws of a total order: they hold between
numbers.  Machine numbers have these laws because they are ordered by rank, exact numbers because
all of them are numbers.

## Main Definitions

* `OrderedScalar` — the laws, with instances for machine numbers and exact ones.

## Main Statements

* `Scalar.le_clamp`, `Scalar.clamp_le` — a number is moved into the range.
* `Scalar.clamp_of_not_isNumber` — an undefined number stays as it is.
* `Scalar.clamp_mono` — moving numbers keeps their order.
* `Scalar.le_foldl_larger` — the largest of several numbers.
-/

namespace JunctionReplay

open Scalar (IsNumber)

/-- A scalar type whose numbers are totally ordered. -/
class OrderedScalar (α : Type) [Scalar α] : Prop where
  /-- Only numbers are comparable. -/
  isNumber_of_le {a b : α} : a ≤ b → IsNumber a ∧ IsNumber b
  le_trans {a b c : α} : a ≤ b → b ≤ c → a ≤ c
  le_total {a b : α} : IsNumber a → IsNumber b → a ≤ b ∨ b ≤ a
  lt_iff {a b : α} : a < b ↔ a ≤ b ∧ ¬ b ≤ a
  isFinite_zero : Scalar.isFinite (0 : α)
  isNumber_of_isFinite {a : α} : Scalar.isFinite a → IsNumber a
  /-- What lies between finite numbers is finite. -/
  isFinite_of_le_of_le {low a high : α} :
    Scalar.isFinite low → Scalar.isFinite high → low ≤ a → a ≤ high → Scalar.isFinite a

namespace Machine

theorem isNumber_iff {x : Float} : IsNumber x ↔ HasRank x := by
  constructor
  · intro number
    exact (le_iff.mp number).1.1
  · intro ranked
    exact le_iff.mpr ⟨⟨ranked, ranked⟩, Int.le_refl _⟩

theorem hasRank_of_isFinite {x : Float} (finite : x.isFinite) : HasRank x := by
  have bounds := isFinite_iff.mp finite
  exact ⟨Int.le_of_lt bounds.1, Int.le_of_lt bounds.2⟩

end Machine

open Machine in
instance : OrderedScalar Float where
  isNumber_of_le le := by
    have ranked := (le_iff.mp le).1
    exact ⟨isNumber_iff.mpr ranked.1, isNumber_iff.mpr ranked.2⟩
  le_trans {a b c} first second := by
    rw [le_iff] at first second ⊢
    exact ⟨⟨first.1.1, second.1.2⟩, Int.le_trans first.2 second.2⟩
  le_total {a b} first second := by
    rw [isNumber_iff] at first second
    rcases Int.le_total (rank a) (rank b) with le | le
    · exact Or.inl (le_iff.mpr ⟨⟨first, second⟩, le⟩)
    · exact Or.inr (le_iff.mpr ⟨⟨second, first⟩, le⟩)
  lt_iff {a b} := by
    rw [lt_iff, le_iff, le_iff]
    constructor
    · rintro ⟨ranked, lt⟩
      exact ⟨⟨ranked, Int.le_of_lt lt⟩, fun back => Int.not_le.mpr lt back.2⟩
    · rintro ⟨⟨ranked, le⟩, notBack⟩
      exact ⟨ranked, Int.not_le.mp fun back => notBack ⟨⟨ranked.2, ranked.1⟩, back⟩⟩
  isFinite_zero := by decide
  isNumber_of_isFinite finite := isNumber_iff.mpr (hasRank_of_isFinite finite)
  isFinite_of_le_of_le {low a high} finiteLow finiteHigh lower upper := by
    have bounds := (isFinite_iff.mp finiteLow).1
    have bounds' := (isFinite_iff.mp finiteHigh).2
    refine isFinite_iff.mpr ⟨?_, ?_⟩
    · exact Int.lt_of_lt_of_le bounds (le_iff.mp lower).2
    · exact Int.lt_of_le_of_lt (le_iff.mp upper).2 bounds'

instance : OrderedScalar Rat where
  isNumber_of_le _ := ⟨Rat.le_refl, Rat.le_refl⟩
  le_trans := Rat.le_trans
  le_total _ _ := Rat.le_total
  lt_iff {a b} := by
    rw [Rat.not_le]
    exact ⟨fun lt => ⟨Rat.le_of_lt lt, lt⟩, fun both => both.2⟩
  isFinite_zero := rfl
  isNumber_of_isFinite _ := Rat.le_refl
  isFinite_of_le_of_le _ _ _ _ := rfl

namespace Scalar

variable {α : Type} [Scalar α] [OrderedScalar α] {a b c low high : α}

/-! ## Comparisons -/

theorem isNumber_zero : IsNumber (0 : α) :=
  OrderedScalar.isNumber_of_isFinite OrderedScalar.isFinite_zero

theorem isNumber_of_lt (lt : a < b) : IsNumber a ∧ IsNumber b :=
  OrderedScalar.isNumber_of_le (OrderedScalar.lt_iff.mp lt).1

theorem le_of_lt (lt : a < b) : a ≤ b :=
  (OrderedScalar.lt_iff.mp lt).1

theorem le_of_not_lt (numberA : IsNumber a) (numberB : IsNumber b) (notLt : ¬ b < a) : a ≤ b := by
  rcases OrderedScalar.le_total numberA numberB with le | ge
  · exact le
  · by_cases le : a ≤ b
    · exact le
    · exact absurd (OrderedScalar.lt_iff.mpr ⟨ge, le⟩) notLt

theorem lt_of_not_le (numberA : IsNumber a) (numberB : IsNumber b) (notLe : ¬ b ≤ a) : a < b := by
  rcases OrderedScalar.le_total numberA numberB with le | ge
  · exact OrderedScalar.lt_iff.mpr ⟨le, notLe⟩
  · exact absurd ge notLe

theorem not_le_of_lt (lt : a < b) : ¬ b ≤ a :=
  (OrderedScalar.lt_iff.mp lt).2

theorem not_lt_of_le (le : a ≤ b) : ¬ b < a :=
  fun lt => not_le_of_lt lt le

theorem lt_of_lt_of_le (lt : a < b) (le : b ≤ c) : a < c := by
  refine OrderedScalar.lt_iff.mpr ⟨OrderedScalar.le_trans (le_of_lt lt) le, fun back => ?_⟩
  exact not_le_of_lt lt (OrderedScalar.le_trans le back)

theorem lt_of_le_of_lt (le : a ≤ b) (lt : b < c) : a < c := by
  refine OrderedScalar.lt_iff.mpr ⟨OrderedScalar.le_trans le (le_of_lt lt), fun back => ?_⟩
  exact not_le_of_lt lt (OrderedScalar.le_trans back le)

/-! ## Moving a number into a range -/

/-- An undefined number is neither below a range nor above it. -/
theorem clamp_of_not_isNumber (undefined : ¬ IsNumber a) : clamp low high a = a := by
  have notBelow : ¬ a < low := fun lt => undefined (isNumber_of_lt lt).1
  have notAbove : ¬ high < a := fun lt => undefined (isNumber_of_lt lt).2
  simp only [clamp, if_neg notBelow, if_neg notAbove]

theorem le_clamp (ordered : low ≤ high) (number : IsNumber a) : low ≤ clamp low high a := by
  have numbers := OrderedScalar.isNumber_of_le ordered
  unfold clamp
  dsimp only
  by_cases below : a < low
  · rw [if_pos below]
    split
    · exact ordered
    · exact numbers.1
  · rw [if_neg below]
    split
    · exact ordered
    · exact le_of_not_lt numbers.1 number below

theorem clamp_le (ordered : low ≤ high) (number : IsNumber a) : clamp low high a ≤ high := by
  have numbers := OrderedScalar.isNumber_of_le ordered
  unfold clamp
  dsimp only
  by_cases below : a < low
  · rw [if_pos below]
    split
    · exact numbers.2
    · exact ordered
  · rw [if_neg below]
    split
    next => exact numbers.2
    next notAbove => exact le_of_not_lt number numbers.2 notAbove

/-- A number of the range stays as it is. -/
theorem clamp_of_le_of_le (lower : low ≤ a) (upper : a ≤ high) : clamp low high a = a := by
  simp only [clamp, if_neg (not_lt_of_le lower), if_neg (not_lt_of_le upper)]

/-- A number above the range is moved to its end. -/
theorem clamp_of_lt (ordered : low ≤ high) (above : high < a) : clamp low high a = high := by
  have notBelow : ¬ a < low := not_lt_of_le (le_of_lt (lt_of_le_of_lt ordered above))
  simp only [clamp, if_neg notBelow, if_pos above]

/-- Moving numbers into a range keeps their order. -/
theorem clamp_mono (ordered : low ≤ high) (le : a ≤ b) : clamp low high a ≤ clamp low high b := by
  have numbers := OrderedScalar.isNumber_of_le le
  by_cases above : high < b
  · rw [clamp_of_lt ordered above]
    exact clamp_le ordered numbers.1
  · have upper : b ≤ high :=
      le_of_not_lt numbers.2 (OrderedScalar.isNumber_of_le ordered).2 above
    by_cases below : a < low
    · rw [clamp, if_pos below, if_neg (not_lt_of_le ordered)]
      exact le_clamp ordered numbers.2
    · have lower : low ≤ a := le_of_not_lt (OrderedScalar.isNumber_of_le ordered).1 numbers.1 below
      rw [clamp_of_le_of_le lower (OrderedScalar.le_trans le upper),
        clamp_of_le_of_le (OrderedScalar.le_trans lower le) upper]
      exact le

/-! ## The larger of two numbers -/

theorem le_larger_left (numberA : IsNumber a) : a ≤ larger a b := by
  unfold larger
  split
  next numberB =>
    split
    · exact numberA
    next notBelow => exact le_of_not_lt numberA numberB notBelow
  next => exact numberA

theorem le_larger_right (numberB : IsNumber b) : b ≤ larger a b := by
  rw [larger, if_pos numberB]
  split
  next below => exact le_of_lt below
  next => exact numberB

theorem isNumber_larger (numberA : IsNumber a) : IsNumber (larger a b) :=
  (OrderedScalar.isNumber_of_le (le_larger_left numberA)).2

/-- The largest of several numbers is at least each of them, and at least the one that the search
starts from. -/
theorem le_foldl_larger {start : α} {values : List α} (number : IsNumber start) :
    start ≤ values.foldl larger start ∧
      ∀ value ∈ values, IsNumber value → value ≤ values.foldl larger start := by
  induction values generalizing start with
  | nil => exact ⟨number, nofun⟩
  | cons first rest ih =>
      have numberNext : IsNumber (larger start first) := isNumber_larger number
      obtain ⟨fromStart, fromRest⟩ := ih numberNext
      refine ⟨OrderedScalar.le_trans (le_larger_left number) fromStart, ?_⟩
      intro value member numberValue
      rcases List.mem_cons.mp member with rfl | member
      · exact OrderedScalar.le_trans (le_larger_right numberValue) fromStart
      · exact fromRest value member numberValue

/-- The largest of finite numbers is finite. -/
theorem isFinite_foldl_larger {start : α} {values : List α} (finite : Scalar.isFinite start)
    (finiteValues : ∀ value ∈ values, Scalar.isFinite value) :
    Scalar.isFinite (values.foldl larger start) := by
  induction values generalizing start with
  | nil => exact finite
  | cons first rest ih =>
      have finiteFirst := finiteValues first List.mem_cons_self
      refine ih ?_ fun value member => finiteValues value (List.mem_cons_of_mem _ member)
      rw [larger, if_pos (OrderedScalar.isNumber_of_isFinite finiteFirst)]
      split
      · exact finite
      · exact finiteFirst

end Scalar

end JunctionReplay
