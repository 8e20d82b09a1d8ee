import JunctionReplay.Decimal.Binary

/-!
# Decimal digits of machine numbers

Which digits a number is written with.

* `shortest` — the fewest digits that still identify the number, and of these the nearest.
* `roundQuotient` — a quotient rounded to a whole number, for a fixed count of places.
* `nearest` — the machine number nearest to a decimal one, for reading.
-/

namespace JunctionReplay.Decimal

/-- Where a value halfway between two candidates goes. -/
inductive Tie where
  | toEven
  | awayFromZero
  deriving DecidableEq, Repr

/-- The decimal number `digits * 10 ^ exponent`. -/
structure Digits where
  digits : Nat
  exponent : Int
  deriving DecidableEq, Repr

/-! ## The fewest digits that identify a number -/

/-- Compares `a * 10 ^ i` with `b * 2 ^ j`. -/
def compareScaled (a : Nat) (i : Int) (b : Nat) (j : Int) : Ordering :=
  compare ((a * Nat.pow 10 i.toNat) <<< (-j).toNat) ((b <<< j.toNat) * Nat.pow 10 (-i).toNat)

namespace Binary

/-- The gap below a power of two is half as wide as the gap above it. -/
def narrowBelow (b : Binary) : Bool :=
  b.significand == Word.count 52 && b.exponent > -1074

/-- Whether a decimal number lies among the reals that are rounded to `b`: from halfway to the
neighbour below up to halfway to the neighbour above, the ends belonging to the even one. -/
def identifiedBy (b : Binary) (d : Digits) : Bool :=
  let low := if b.narrowBelow then 4 * b.significand - 1 else 4 * b.significand - 2
  let high := 4 * b.significand + 2
  let closed := b.significand % 2 == 0
  let atLow := compareScaled d.digits d.exponent low (b.exponent - 2)
  let atHigh := compareScaled d.digits d.exponent high (b.exponent - 2)
  (atLow == .gt || (closed && atLow == .eq)) && (atHigh == .lt || (closed && atHigh == .eq))

/-- Whether `b` is below `10 ^ power`. -/
def isBelowPower (b : Binary) (power : Int) : Bool :=
  compareScaled 1 power b.significand b.exponent == .gt

/-- The least power of ten above `b`, found from its binary width and then corrected. -/
def decimalScale (b : Binary) : Int :=
  let guess := (b.exponent + b.significand.log2) * 30103 / 100000
  if b.isBelowPower guess then guess
  else if b.isBelowPower (guess + 1) then guess + 1
  else guess + 2

/-- The multiple of `10 ^ exponent` at or below `b`. -/
def floorOnGrid (b : Binary) (exponent : Int) : Nat :=
  ((b.significand <<< b.exponent.toNat) * Nat.pow 10 (-exponent).toNat) /
    (Nat.pow 10 exponent.toNat <<< (-b.exponent).toNat)

/-- The better of the two points of a decimal grid around `b` that identify it. -/
def bestOnGrid (b : Binary) (tie : Tie) (exponent : Int) : Option Digits :=
  let lower : Digits := ⟨b.floorOnGrid exponent, exponent⟩
  let upper : Digits := ⟨lower.digits + 1, exponent⟩
  match b.identifiedBy lower, b.identifiedBy upper with
  | true, false => some lower
  | false, true => some upper
  | false, false => none
  | true, true =>
    match compareScaled (2 * lower.digits + 1) exponent (2 * b.significand) b.exponent, tie with
    | .gt, _ => some lower
    | .lt, _ => some upper
    | .eq, .awayFromZero => some upper
    | .eq, .toEven => if lower.digits % 2 = 0 then some lower else some upper

/-- All digits of the number, should no short form identify it. -/
def allDigits (b : Binary) : Digits :=
  ⟨(b.significand <<< b.exponent.toNat) * Nat.pow 5 (-b.exponent).toNat, min b.exponent 0⟩

end Binary

/-- A last digit `0` moved into the exponent. -/
def Digits.withoutLastZero (d : Digits) : Digits :=
  if d.digits % 10 = 0 then ⟨d.digits / 10, d.exponent + 1⟩ else d

/-- The fewest digits that identify the size of a finite machine number, and of these the
nearest ones. -/
def shortest (tie : Tie) (x : Float) : Digits :=
  let size := Binary.ofFloat x
  if size.significand = 0 then ⟨0, 0⟩
  else
    let scale := size.decimalScale
    let found := (List.range 17).findSome? fun (n : Nat) => size.bestOnGrid tie (scale - 1 - n)
    (found.getD size.allDigits).withoutLastZero

/-! ## A fixed count of places -/

/-- The quotient rounded to a whole number. -/
def roundQuotient (tie : Tie) (dividend divisor : Nat) : Nat :=
  let floor := dividend / divisor
  match compare (2 * (dividend % divisor)) divisor, tie with
  | .lt, _ => floor
  | .gt, _ => floor + 1
  | .eq, .awayFromZero => floor + 1
  | .eq, .toEven => if floor % 2 = 0 then floor else floor + 1

/-- The size of a finite machine number in units of `10 ^ (-places)`, rounded. -/
def roundedTo (tie : Tie) (places : Nat) (x : Float) : Nat :=
  let size := Binary.ofFloat x
  roundQuotient tie ((size.significand <<< size.exponent.toNat) * Nat.pow 10 places)
    (1 <<< (-size.exponent).toNat)

/-! ## Reading -/

/-- The machine number nearest to `d`.  Numbers that are far outside the range are told by the
place of their leading digit, so that no power of ten grows with the exponent. -/
def nearest (d : Digits) : Float :=
  let place := d.exponent + (Nat.toDigits 10 d.digits).length
  if d.digits = 0 || place < -400 then 0.0
  else if 400 < place then 1.0 / 0.0
  else Float.ofScientific d.digits (d.exponent < 0) d.exponent.natAbs

end JunctionReplay.Decimal
