import JunctionReplay.Scalar

/-!
# Exact numbers as scalars

Rational numbers: every number is finite, and a remainder is what is left below the floor of the
quotient.
-/

namespace JunctionReplay

instance : Scalar Rat where
  zero := 0
  one := 1
  decidableLT := fun a b => inferInstanceAs (Decidable (a < b))
  decidableLE := fun a b => inferInstanceAs (Decidable (a ≤ b))
  isFinite _ := true
  wrap t cycle := t - cycle * (t / cycle).floor
  wholeUnits a := a.floor.toNat

end JunctionReplay
