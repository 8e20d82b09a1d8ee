import JunctionReplay.Word

/-!
# Exact sizes of machine numbers

A finite machine number is a natural number times a power of two.  `Binary` is that pair; it is
what decimal text is chosen from, and what remainders are taken on without rounding.
-/

namespace JunctionReplay.Decimal

/-- The number `significand * 2 ^ exponent`. -/
structure Binary where
  significand : Nat
  exponent : Int
  deriving DecidableEq, Repr

/-- Whether the sign bit of a machine number is set, which it also is for the negative zero. -/
def isNegative (x : Float) : Bool :=
  x.toBits >>> 63 == 1

namespace Binary

/-- The size of a finite machine number. -/
def ofFloat (x : Float) : Binary :=
  let scale := ((x.toBits >>> 52) &&& 0x7FF).toNat
  let fraction := (x.toBits &&& 0xFFFFFFFFFFFFF).toNat
  if scale = 0 then ⟨fraction, -1074⟩ else ⟨Word.count 52 + fraction, (scale : Int) - 1075⟩

/-- The significand once the exponent is lowered to `exponent`. -/
def alignedTo (b : Binary) (exponent : Int) : Nat :=
  b.significand <<< (b.exponent - exponent).toNat

/-- What is left of `a` after taking away `b` as often as it fits. -/
def remainder (a b : Binary) : Binary :=
  let exponent := min a.exponent b.exponent
  ⟨a.alignedTo exponent % b.alignedTo exponent, exponent⟩

/-- The machine number of this size, for a size that one has. -/
def toFloat (b : Binary) : Float :=
  let scale := max (b.exponent + b.significand.log2 - 52) (-1074)
  let significand :=
    (b.significand <<< (b.exponent - scale).toNat) >>> (scale - b.exponent).toNat
  if significand < Word.count 52 then Float.ofBits significand.toUInt64
  else Float.ofBits (significand - Word.count 52 + ((scale + 1075).toNat <<< 52)).toUInt64

end Binary

end JunctionReplay.Decimal
