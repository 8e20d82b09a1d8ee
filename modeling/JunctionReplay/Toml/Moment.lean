import JunctionReplay.Decimal.Written
import JunctionReplay.Text.Numeral
import JunctionReplay.Toml.Value

/-!
# Reading TOML dates and times

A moment is a date, a time of day, or a date with a time and perhaps an offset.  Settings have no
use for moments, so only their form is checked, and they are kept as they are written in their
shortest form.
-/

namespace JunctionReplay.Toml

/-- Reads a number of a set count of digits that lies in a range. -/
def fixedNumber (length low high : Nat) : Reader Nat := fun text => do
  if (text.take length).length < length then none
  else
    let value ← Text.numeral? 10 (text.take length)
    if low ≤ value ∧ value ≤ high then some (value, text.drop length) else none

/-- Takes one character. -/
def take (expected : Char) : Reader Unit
  | [] => none
  | c :: rest => if c = expected then some ((), rest) else none

/-- The number of days of a month. -/
def daysOf (year month : Nat) : Nat :=
  if month = 2 then
    if (year % 4 = 0 ∧ year % 100 ≠ 0) ∨ year % 400 = 0 then 29 else 28
  else if month = 4 ∨ month = 6 ∨ month = 9 ∨ month = 11 then 30
  else 31

/-- A number with zeros in front up to a set length. -/
def padded (length n : Nat) : String :=
  let digits := Nat.toDigits 10 n
  String.ofList (List.replicate (length - digits.length) '0' ++ digits)

/-- Reads a date. -/
def date : Reader String := fun text => do
  let (year, rest) ← fixedNumber 4 0 9999 text
  let (_, rest) ← take '-' rest
  let (month, rest) ← fixedNumber 2 1 12 rest
  let (_, rest) ← take '-' rest
  let (day, rest) ← fixedNumber 2 1 (daysOf year month) rest
  some (padded 4 year ++ "-" ++ padded 2 month ++ "-" ++ padded 2 day, rest)

/-- The characters without the zeros at their end. -/
def dropLastZeros (digits : List Char) : List Char :=
  (digits.reverse.dropWhile (· = '0')).reverse

/-- Reads the fraction of a second, which is kept to nine places and may be missing. -/
def secondFraction : Reader String := fun text =>
  match text with
  | '.' :: rest =>
    let digits := rest.takeWhile Char.isDigit
    let kept := dropLastZeros (digits.take 9)
    if digits.isEmpty then none
    else some (if kept.isEmpty then "" else "." ++ String.ofList kept,
      rest.dropWhile Char.isDigit)
  | _ => some ("", text)

/-- Reads a time of day. -/
def timeOfDay : Reader String := fun text => do
  let (hour, rest) ← fixedNumber 2 0 23 text
  let (_, rest) ← take ':' rest
  let (minute, rest) ← fixedNumber 2 0 59 rest
  let (_, rest) ← take ':' rest
  let (second, rest) ← fixedNumber 2 0 60 rest
  let (fraction, rest) ← secondFraction rest
  some (padded 2 hour ++ ":" ++ padded 2 minute ++ ":" ++ padded 2 second ++ fraction, rest)

/-- Reads hours and minutes of an offset from behind its sign. -/
def offsetSize (sign : String) : Reader String := fun text => do
  let (hour, rest) ← fixedNumber 2 0 23 text
  let (_, rest) ← take ':' rest
  let (minute, rest) ← fixedNumber 2 0 59 rest
  let shown := if hour = 0 ∧ minute = 0 then "+" else sign
  some (shown ++ padded 2 hour ++ ":" ++ padded 2 minute, rest)

/-- Reads an offset, which may be missing. -/
def offset : Reader String := fun text =>
  match text with
  | 'Z' :: rest | 'z' :: rest => some ("Z", rest)
  | '+' :: rest => offsetSize "+" rest
  | '-' :: rest => offsetSize "-" rest
  | _ => some ("", text)

/-- Reads the time behind a date. -/
def timeBehindDate : Reader String := fun text => do
  let (time, rest) ← timeOfDay text
  let (offset, rest) ← offset rest
  some ("T" ++ time ++ offset, rest)

/-- Reads the time behind a date, which may be missing. -/
def optionalTime : Reader String := fun text =>
  match text with
  | 'T' :: rest | 't' :: rest => timeBehindDate rest
  | ' ' :: rest => some ((timeBehindDate rest).getD ("", text))
  | _ => some ("", text)

/-- Reads a moment. -/
def moment : Reader Value := fun text =>
  match date text with
  | some (date, rest) => (optionalTime rest).map fun (time, rest) => (.moment (date ++ time), rest)
  | none => (timeOfDay text).map fun (time, rest) => (.moment time, rest)

end JunctionReplay.Toml
