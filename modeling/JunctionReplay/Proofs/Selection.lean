import Mathlib.Data.List.Forall2

/-!
# Items that are selected

What the searches of the library select from a list, said without the search: the first item that is
as wanted is one with none that is as wanted in front of it, and what is made of some of the items
goes with these items one by one.

## Main Definitions

* `IsFirst` — an item is the first one that is as wanted.

## Main Statements

* `find?_eq_some_iff_isFirst` — a search finds the first item.
* `forall₂_filter_filterMap` — what is made of items, beside those that something is made of.
-/

namespace JunctionReplay

variable {β : Type} {items : List β} {wanted : β → Prop} {item : β}

/-- An item is the first one that is as wanted. -/
structure IsFirst (items : List β) (wanted : β → Prop) (item : β) : Prop where
  isWanted : wanted item
  exists_split : ∃ before after, items = before ++ item :: after ∧
    ∀ other ∈ before, ¬ wanted other

theorem find?_eq_some_iff_isFirst [DecidablePred wanted] :
    items.find? (fun item => wanted item) = some item ↔ IsFirst items wanted item := by
  rw [List.find?_eq_some_iff_append, decide_eq_true_iff]
  constructor
  · rintro ⟨isWanted, before, after, split, others⟩
    exact ⟨isWanted, before, after, split, fun other member => by simpa using others other member⟩
  · rintro ⟨isWanted, before, after, split, others⟩
    exact ⟨isWanted, before, after, split, fun other member => by simpa using others other member⟩

/-- Of the items that are as wanted, if there are any, one is the first. -/
theorem exists_isFirst_iff [DecidablePred wanted] :
    (∃ item, IsFirst items wanted item) ↔ ∃ item ∈ items, wanted item := by
  simp only [← find?_eq_some_iff_isFirst, ← Option.isSome_iff_exists, List.find?_isSome,
    decide_eq_true_iff]

/-- What is made of items is made of those of them that something can be made of. -/
theorem forall₂_filter_filterMap {γ : Type} (make : β → Option γ) (items : List β) :
    List.Forall₂ (fun item made => make item = some made)
      (items.filter fun item => (make item).isSome) (items.filterMap make) := by
  induction items with
  | nil => exact .nil
  | cons item rest ih =>
      cases made : make item with
      | none => simpa [made] using ih
      | some result => simpa [made] using ih

end JunctionReplay
