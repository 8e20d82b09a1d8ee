import JunctionReplay.Decimal.Digits
import JunctionReplay.Text.Numeral

/-!
# Number literals

Numbers as they are given on a command line: digits with a point and an exponent, of which each
may be missing but not all digits, or a word for an infinite or undefined number in letters of
either case, in all cases perhaps with a sign in front.
-/

namespace JunctionReplay.Decimal

/-- A character in lower case. -/
def lowerCase (c : Char) : Char := c.toLower

/-- The number that a word stands for. -/
def ofWord? (characters : List Char) : Option Float :=
  let word := String.ofList (characters.map lowerCase)
  if word = "inf" ∨ word = "infinity" then some (1.0 / 0.0)
  else if word = "nan" then some (0.0 / 0.0)
  else none

/-- The sign in front, `true` for a minus, with the characters behind it. -/
def splitSign : List Char → Bool × List Char
  | '-' :: rest => (true, rest)
  | '+' :: rest => (false, rest)
  | characters => (false, characters)

/-- The exponent that a literal ends with, zero if it has none. -/
def exponentOf? : List Char → Option Int
  | [] => some 0
  | mark :: rest =>
    if mark = 'e' || mark = 'E' then
      let (negative, digits) := splitSign rest
      (Text.numeral? 10 digits).map fun size => if negative then -(size : Int) else size
    else none

/-- The digits behind a point, with the characters that follow them. -/
def splitFraction : List Char → List Char × List Char
  | '.' :: rest => (rest.takeWhile Char.isDigit, rest.dropWhile Char.isDigit)
  | characters => ([], characters)

/-- The size that a literal without a sign stands for. -/
def sizeOf? (characters : List Char) : Option Float := do
  let whole := characters.takeWhile Char.isDigit
  let (fraction, rest) := splitFraction (characters.dropWhile Char.isDigit)
  let digits ← Text.numeral? 10 (whole ++ fraction)
  let exponent ← exponentOf? rest
  some (nearest ⟨digits, exponent - fraction.length⟩)

/-- The machine number nearest to what a literal says. -/
def ofLiteral? (text : String) : Option Float :=
  let (negative, characters) := splitSign text.toList
  ((ofWord? characters).orElse fun _ => sizeOf? characters).map fun size =>
    if negative then -size else size

end JunctionReplay.Decimal
