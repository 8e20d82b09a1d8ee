import JunctionReplay.Decimal.Digits

/-!
# Written numbers

The three ways in which numbers appear in what the program writes.

* `plain` — the shortest digits without an exponent, for messages.
* `compact` — the shortest digits with a point or an exponent, for documents.
* `fixed` — a set number of places, for logs and panels.
-/

namespace JunctionReplay.Decimal

/-- The text of a whole number. -/
def natText (n : Nat) : String :=
  String.ofList (Nat.toDigits 10 n)

/-- The text of `n` zeros. -/
def zeros (n : Nat) : String :=
  String.ofList (List.replicate n '0')

namespace Digits

/-- The digits as characters. -/
def characters (d : Digits) : List Char :=
  Nat.toDigits 10 d.digits

/-- The place of the point, counted from in front of the first digit. -/
def point (d : Digits) : Int :=
  d.exponent + d.characters.length

/-- The number without an exponent, `whole` standing behind it when it has no fraction. -/
def positional (d : Digits) (whole : String) : String :=
  if d.digits = 0 then "0" ++ whole
  else if d.point ≤ 0 then
    "0." ++ zeros (-d.point).toNat ++ String.ofList d.characters
  else if 0 ≤ d.exponent then
    String.ofList d.characters ++ zeros d.exponent.toNat ++ whole
  else
    String.ofList (d.characters.take d.point.toNat) ++ "." ++
      String.ofList (d.characters.drop d.point.toNat)

/-- The number as one digit, a fraction if there are more digits, and a signed exponent. -/
def scientific (d : Digits) : String :=
  let mantissa :=
    match d.characters with
    | [] => ""
    | [digit] => String.ofList [digit]
    | digit :: rest => String.ofList (digit :: '.' :: rest)
  let power := d.point - 1
  mantissa ++ (if power < 0 then "e-" else "e+") ++ natText power.natAbs

end Digits

/-- The sign of a machine number, as far as it is written. -/
def sign (x : Float) : String :=
  if isNegative x then "-" else ""

/-- The words for numbers that are not finite. -/
def nonFinite (x : Float) : String :=
  if x.isNaN then "NaN" else sign x ++ "inf"

/-- The shortest digits, never with an exponent, and with a fraction only where there is one; a
number halfway between two shortest forms takes the larger. -/
def plain (x : Float) : String :=
  if x.isFinite then sign x ++ (shortest .awayFromZero x).positional "" else nonFinite x

/-- As `plain`, but a whole number keeps a fraction of zero. -/
def plainFraction (x : Float) : String :=
  if x.isFinite then sign x ++ (shortest .awayFromZero x).positional ".0" else nonFinite x

/-- The shortest digits with a fraction or an exponent: positional from `0.00001` up to `10^16`,
with a signed exponent outside of that. -/
def compact (x : Float) : String :=
  if x.isFinite then
    let d := shortest .toEven x
    sign x ++
      if d.digits = 0 || (-5 < d.point && d.point ≤ 16) then d.positional ".0" else d.scientific
  else nonFinite x

/-- The size of a finite number with a set number of places. -/
def fixedSize (tie : Tie) (places : Nat) (x : Float) : String :=
  let units := Nat.toDigits 10 (roundedTo tie places x)
  let padded := List.replicate (places + 1 - units.length) '0' ++ units
  let whole := String.ofList (padded.take (padded.length - places))
  if places = 0 then whole
  else whole ++ "." ++ String.ofList (padded.drop (padded.length - places))

/-- A set number of places; the exact value is rounded, half of a unit to the even neighbour. -/
def fixed (places : Nat) (x : Float) : String :=
  if x.isFinite then sign x ++ fixedSize .toEven places x else nonFinite x

/-- As `fixed`, with the sign of positive numbers written out. -/
def fixedSigned (places : Nat) (x : Float) : String :=
  if x.isNaN || isNegative x then fixed places x else "+" ++ fixed places x

/-- The nearest whole number, half of a unit going away from zero. -/
def rounded (x : Float) : String :=
  if x.isFinite then sign x ++ fixedSize .awayFromZero 0 x else nonFinite x

end JunctionReplay.Decimal
