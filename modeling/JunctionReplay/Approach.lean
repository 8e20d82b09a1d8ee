import JunctionReplay.Keyed

/-!
# Approaches

The four sides from which roads feed the intersection, and the table that tells which road comes
from which side.  The sides are ordered as they are listed.
-/

namespace JunctionReplay

/-- The side from which a road feeds the intersection. -/
inductive Approach where
  | north
  | south
  | east
  | west
  deriving DecidableEq, Repr

namespace Approach

/-- All sides in their order. -/
def all : List Approach := [.north, .south, .east, .west]

/-- The name of a side. -/
def label : Approach → String
  | .north => "North"
  | .south => "South"
  | .east => "East"
  | .west => "West"

/-- The side with the given name. -/
def ofLabel? (label : String) : Option Approach :=
  all.find? fun approach => approach.label = label

@[simp] theorem ofLabel?_label (approach : Approach) : ofLabel? approach.label = some approach := by
  cases approach <;> decide

/-- Whether a side belongs to the road through the intersection from north to south. -/
def isNorthSouth : Approach → Bool
  | .north | .south => true
  | .east | .west => false

/-- The place of a side in the order. -/
def rank : Approach → Nat
  | .north => 0
  | .south => 1
  | .east => 2
  | .west => 3

instance : LT Approach := ⟨fun a b => a.rank < b.rank⟩

instance : DecidableLT Approach := fun a b => inferInstanceAs (Decidable (a.rank < b.rank))

end Approach

/-- Which side each road comes from, by the id of its edge. -/
abbrev Directions := Keyed String Approach

namespace Directions

/-- The sides of the four roads of the standard intersection. -/
def standard : Directions :=
  Keyed.ofPairs
    [("in_n2_1", .north), ("in_n3_1", .south), ("in_n4_1", .west), ("in_n5_1", .east)]

end Directions

end JunctionReplay
