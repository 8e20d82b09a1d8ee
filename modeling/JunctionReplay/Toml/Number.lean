import JunctionReplay.Decimal.Digits
import JunctionReplay.Text.Numeral
import JunctionReplay.Toml.Value
import JunctionReplay.Word

/-!
# Reading TOML numbers

Digits may be parted by single underscores.  Whole numbers have 64 bits and a sign, and may be
written in the bases 2, 8 and 16; all other numbers are the machine numbers nearest to what is
written, where no positive number may be too large.
-/

namespace JunctionReplay.Toml

/-- Whether a character may stand in a group of digits. -/
def isDigitOrMark (base : Nat) (c : Char) : Bool :=
  (Text.digit? base c).isSome || c = '_'

/-- The digits of a group, without the single underscores between them. -/
def ungrouped? (base : Nat) : List Char → Option (List Char)
  | [] => none
  | [c] => if (Text.digit? base c).isSome then some [c] else none
  | c :: '_' :: rest =>
    if (Text.digit? base c).isSome then (ungrouped? base rest).map (c :: ·) else none
  | c :: rest =>
    if (Text.digit? base c).isSome then (ungrouped? base rest).map (c :: ·) else none

/-- Reads a group of digits. -/
def digitGroup (base : Nat) : Reader (List Char) := fun text => do
  let digits ← ungrouped? base (text.takeWhile (isDigitOrMark base))
  some (digits, text.dropWhile (isDigitOrMark base))

/-- The whole numbers that can be held: those of 64 bits with a sign. -/
def wholeNumber? (value : Int) : Option Value :=
  if -(Word.count 63 : Int) ≤ value ∧ value < Word.count 63 then some (.integer value) else none

/-- Reads a whole number of another base from behind the mark of the base. -/
def basedNumber (base : Nat) : Reader Value := fun text => do
  let (digits, rest) ← digitGroup base text
  some (← wholeNumber? (← Text.numeral? base digits), rest)

/-- Reads a sign, which may be missing; `true` stands for a minus. -/
def readSign : List Char → Bool × List Char
  | '+' :: rest => (false, rest)
  | '-' :: rest => (true, rest)
  | text => (false, text)

/-- The number with a minus in front, if there is one. -/
def withSign (negative : Bool) (size : Float) : Float :=
  if negative then -size else size

/-- Reads the digits behind a point, of which there are none without a point. -/
def fraction : Reader (List Char)
  | '.' :: rest => digitGroup 10 rest
  | text => some ([], text)

/-- Reads an exponent, which is `none` when there is none. -/
def exponent : Reader (Option Int) := fun text =>
  match text with
  | [] => some (none, [])
  | c :: rest =>
    if c = 'e' || c = 'E' then do
      let (negative, rest) := readSign rest
      let (digits, rest) ← digitGroup 10 rest
      let size ← Text.numeral? 10 digits
      some (some (if negative then -(size : Int) else size), rest)
    else some (none, text)

/-- The number nearest to what is written; a positive one may not be too large. -/
def realNumber? (negative : Bool) (whole fraction : List Char) (exponent : Int) :
    Option Value := do
  let digits ← Text.numeral? 10 (whole ++ fraction)
  let size := Decimal.nearest ⟨digits, exponent - fraction.length⟩
  if size.isInf && !negative then none else some (.real (withSign negative size))

/-- Reads a decimal number from behind its sign.  A zero in front is only allowed alone. -/
def decimalNumber (negative : Bool) : Reader Value := fun text => do
  let (whole, rest) ← digitGroup 10 text
  if whole.head? = some '0' && 1 < whole.length then none
  else
    let (fractionDigits, rest) ← fraction rest
    let (power, rest) ← exponent rest
    if fractionDigits.isEmpty && power.isNone then
      let size ← Text.numeral? 10 whole
      some (← wholeNumber? (if negative then -(size : Int) else size), rest)
    else some (← realNumber? negative whole fractionDigits (power.getD 0), rest)

/-- Reads a number. -/
def number : Reader Value := fun text =>
  match text with
  | '0' :: 'x' :: rest => basedNumber 16 rest
  | '0' :: 'o' :: rest => basedNumber 8 rest
  | '0' :: 'b' :: rest => basedNumber 2 rest
  | _ =>
    let (negative, rest) := readSign text
    match rest with
    | 'i' :: 'n' :: 'f' :: rest => some (.real (withSign negative (1.0 / 0.0)), rest)
    | 'n' :: 'a' :: 'n' :: rest => some (.real (0.0 / 0.0), rest)
    | _ => decimalNumber negative rest

end JunctionReplay.Toml
