/-!
# Scalars

The replay of a simulation is arithmetic on times, speeds and coordinates.  All of it is
written over a scalar type, so that one and the same definition runs on machine numbers and can
be reasoned about in exact arithmetic.

* `Scalar` — the field operations, a decidable order, and the few operations that the replay
  needs beyond them.
* `Planar` — lengths and directions of plane vectors, kept apart because no exact number type
  has them.

The order of a scalar type need not be total: an undefined number is neither below nor above
any other, and `IsNumber` tells it apart.
-/

namespace JunctionReplay

/-- The numbers that a replay computes with. -/
class Scalar (α : Type) extends
    Zero α, One α, Add α, Sub α, Mul α, Div α, Neg α, LT α, LE α, NatCast α, OfScientific α where
  decidableLT : DecidableLT α
  decidableLE : DecidableLE α
  /-- Whether a number is neither infinite nor undefined. -/
  isFinite : α → Bool
  /-- The remainder of a number by a positive one, never negative. -/
  wrap : α → α → α
  /-- The number of whole units below a number, `0` for one that is negative or undefined. -/
  wholeUnits : α → Nat

instance Scalar.instDecidableLT {α : Type} [Scalar α] : DecidableLT α := Scalar.decidableLT

instance Scalar.instDecidableLE {α : Type} [Scalar α] : DecidableLE α := Scalar.decidableLE

/-- Lengths and directions of vectors in the plane. -/
class Planar (α : Type) where
  squareRoot : α → α
  /-- The direction of the vector `(x, y)`, taking `y` first, in radians from the `x` axis. -/
  direction : α → α → α
  /-- A quarter of a full turn, in radians. -/
  quarterTurn : α
  /-- The length up to which a vector is taken to have no direction. -/
  negligible : α

namespace Scalar

variable {α : Type} [Scalar α]

/-- A number is undefined exactly when it is not even below itself. -/
def IsNumber (a : α) : Prop := a ≤ a

instance (a : α) : Decidable (IsNumber a) :=
  inferInstanceAs (Decidable (a ≤ a))

/-- The larger of two numbers, the second of equal ones; an undefined one is passed over. -/
def larger (a b : α) : α :=
  if IsNumber b then if b < a then a else b else a

/-- The smaller of two numbers, the second of equal ones; an undefined one is passed over. -/
def smaller (a b : α) : α :=
  if IsNumber b then if a < b then a else b else a

/-- The size of a number. -/
def magnitude (a : α) : α :=
  if a < 0 then -a else a

/-- The number of a range that is nearest to `a`; an undefined number stays as it is. -/
def clamp (low high a : α) : α :=
  let raised := if a < low then low else a
  if high < raised then high else raised

end Scalar

end JunctionReplay
