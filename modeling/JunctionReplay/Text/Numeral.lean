/-!
# Numerals

Numbers written by digits of a base up to sixteen, with letters of either case for the digits
from ten on.
-/

namespace JunctionReplay.Text

/-- The value of a digit of the given base. -/
def digit? (base : Nat) (c : Char) : Option Nat :=
  let value :=
    if c.isDigit then c.toNat - '0'.toNat
    else if 'a' ≤ c && c ≤ 'f' then c.toNat - 'a'.toNat + 10
    else if 'A' ≤ c && c ≤ 'F' then c.toNat - 'A'.toNat + 10
    else base
  if value < base then some value else none

/-- The number that digits behind those of `read` stand for, if there are only digits. -/
def appendNumeral? (base read : Nat) : List Char → Option Nat
  | [] => some read
  | c :: rest =>
    match digit? base c with
    | some digit => appendNumeral? base (base * read + digit) rest
    | none => none

/-- The number that is written by at least one digit and nothing else. -/
def numeral? (base : Nat) (characters : List Char) : Option Nat :=
  if characters.isEmpty then none else appendNumeral? base 0 characters

end JunctionReplay.Text
