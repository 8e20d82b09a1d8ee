import JunctionReplay.Scalar
import JunctionReplay.Decimal.Binary

/-!
# Machine numbers as scalars

Double-precision numbers with the remainder computed without rounding, so that a time wraps
around a cycle exactly however far it lies outside.
-/

namespace JunctionReplay

open Decimal (Binary isNegative)

namespace Machine

/-- The number that stands for an undefined result. -/
def undefined : Float := 0.0 / 0.0

/-- The number above every finite one. -/
def infinity : Float := 1.0 / 0.0

/-- The remainder of `x` by `y` with the sign of `x`. -/
def signedRemainder (x y : Float) : Float :=
  if x.isNaN || y.isNaN || x.isInf || y == 0.0 then undefined
  else if y.isInf then x
  else
    let size := ((Binary.ofFloat x).remainder (Binary.ofFloat y)).toFloat
    if isNegative x then -size else size

/-- The remainder of `x` by `y`, moved up by the size of `y` when it is negative. -/
def wrap (x y : Float) : Float :=
  let rest := signedRemainder x y
  if rest < 0.0 then rest + y.abs else rest

end Machine

instance : Scalar Float where
  zero := 0.0
  one := 1.0
  natCast := Float.ofNat
  decidableLT := Float.decLt
  decidableLE := Float.decLe
  isFinite := Float.isFinite
  wrap := Machine.wrap
  wholeUnits x := x.toUInt64.toNat

instance : Planar Float where
  squareRoot := Float.sqrt
  direction y x := Float.atan2 y x
  quarterTurn := 1.5707963267948966
  negligible := 2.220446049250313e-16

end JunctionReplay
