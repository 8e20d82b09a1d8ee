/-!
# Keyed tables

A table from keys to values that is kept in the order of its keys.  `put` is the only way in
which tables grow, so a table built from the empty one holds each key once, in order, and two
tables with the same look-ups are the same list.

Text is ordered by its characters, which is also the order of its bytes.
-/

namespace JunctionReplay

/-- Pairs of a key and a value in the order of the keys. -/
abbrev Keyed (κ β : Type) := List (κ × β)

namespace Keyed

variable {κ β : Type} [DecidableEq κ]

/-- The value of a key. -/
def get? (key : κ) : Keyed κ β → Option β
  | [] => none
  | entry :: rest => if entry.1 = key then some entry.2 else get? key rest

@[simp] theorem get?_nil (key : κ) : get? key ([] : Keyed κ β) = none := rfl

variable [LT κ] [DecidableLT κ]

/-- Replaces the value of a key, or inserts the key at its place. -/
def put (key : κ) (value : β) : Keyed κ β → Keyed κ β
  | [] => [(key, value)]
  | entry :: rest =>
    if key = entry.1 then (key, value) :: rest
    else if key < entry.1 then (key, value) :: entry :: rest
    else entry :: put key value rest

/-- Puts pairs in their order, so that of two values for a key the later one stays. -/
def putAll (table : Keyed κ β) (pairs : List (κ × β)) : Keyed κ β :=
  pairs.foldl (fun table pair => table.put pair.1 pair.2) table

/-- The table of a list of pairs. -/
def ofPairs (pairs : List (κ × β)) : Keyed κ β :=
  putAll [] pairs

/-- Putting a value changes the look-up of its key alone. -/
theorem get?_put (key other : κ) (value : β) (table : Keyed κ β) :
    get? other (put key value table) = if key = other then some value else get? other table := by
  induction table with
  | nil => simp [put, get?]
  | cons entry rest ih =>
    unfold put
    split
    next same =>
      by_cases h : key = other
      · simp [get?, h]
      · simp [get?, h, ← same]
    next different =>
      split
      next => by_cases h : key = other <;> simp [get?, h]
      next =>
        by_cases h : entry.1 = other
        · have apart : key ≠ other := fun same => different (same.trans h.symm)
          simp [get?, h, apart]
        · simp [get?, h, ih]

end Keyed

end JunctionReplay
