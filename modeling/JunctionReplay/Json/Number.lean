import JunctionReplay.Json.Failure
import JunctionReplay.Json.Value
import JunctionReplay.Word

/-!
# Reading JSON numbers

Digits are collected in 64 bits.  Digits of the whole part that no longer fit are only counted,
those of the fraction are dropped, and the number is the collected one times a power of ten, each
step rounded on its own.  A number with more digits than 64 bits hold is therefore not always the
machine number nearest to its text.
-/

namespace JunctionReplay.Json

/-- What a reader takes off the front of a text, or why it fails. -/
abbrev Reader (β : Type) := List Char → Except Failure (β × List Char)

/-- The digit that a character stands for. -/
def digitValue (c : Char) : Nat := c.toNat - '0'.toNat

/-- Collects digits as long as the number fits 64 bits; the second part counts those left over. -/
def collectDigits (collected : Nat) : List Char → Nat × Nat
  | [] => (collected, 0)
  | digit :: rest =>
    if collected * 10 + digitValue digit < Word.count 64 then
      collectDigits (collected * 10 + digitValue digit) rest
    else (collected, rest.length + 1)

/-- The power of ten with the given exponent, as a machine number. -/
def powerOfTen (exponent : Nat) : Float := Float.ofScientific 1 false exponent

/-- A significand times a power of ten; `none` when the result is no finite number.  The product
and the quotient are rounded; a quotient by more than `10 ^ 308` is taken in two steps, and one
by more than `10 ^ 616` is zero. -/
def scaleByTen (significand : Nat) (exponent : Int) : Option Float :=
  let start := Float.ofNat significand
  if 308 < exponent then if significand = 0 then some start else none
  else if 0 ≤ exponent then
    let product := start * powerOfTen exponent.toNat
    if product.isInf then none else some product
  else if -308 ≤ exponent then some (start / powerOfTen (-exponent).toNat)
  else if -616 ≤ exponent then
    some (start / powerOfTen 308 / powerOfTen (-exponent - 308).toNat)
  else some 0.0

/-- The machine number of a size, with its sign. -/
def signedNumber (negative : Bool) (size : Float) : Number :=
  .real (if negative then -size else size)

/-- The scaled number in front of `rest`, or the fault that it is too large. -/
def scaledNumber (negative : Bool) (significand : Nat) (exponent : Int) : Reader Number :=
  fun rest =>
    match scaleByTen significand exponent with
    | some size => .ok (signedNumber negative size, rest)
    | none => .error (.before .numberTooLarge rest)

/-- The largest exponent that is read as a number. -/
def exponentLimit : Nat := Word.count 31 - 1

/-- Reads the digits of an exponent.  `none` stands for an exponent beyond the limit, of which no
more digits are read. -/
def exponentDigits (collected : Nat) : List Char → Option Nat × List Char
  | [] => (some collected, [])
  | c :: rest =>
    if c.isDigit then
      if collected * 10 + digitValue c ≤ exponentLimit then
        exponentDigits (collected * 10 + digitValue c) rest
      else (none, rest)
    else (some collected, c :: rest)

/-- Reads an exponent from behind its mark, for a significand with an exponent of its own. -/
def exponent (negative : Bool) (significand : Nat) (start : Int) : Reader Number := fun text =>
  let down : Bool := text.head? = some '-'
  let digits := if text.head? = some '+' || down then text.tail else text
  match digits with
  | [] => .error (.atEnd .endInValue)
  | c :: _ =>
    if c.isDigit then
      match exponentDigits 0 digits with
      | (some size, rest) =>
        scaledNumber negative significand (if down then start - size else start + size) rest
      | (none, rest) =>
        if significand ≠ 0 && !down then .error (.before .numberTooLarge rest)
        else .ok (signedNumber negative 0.0, rest.dropWhile Char.isDigit)
    else .error (.behindNext .badNumber digits)

/-- Whether a text goes on with an exponent. -/
def startsExponent (text : List Char) : Bool :=
  text.head? = some 'e' || text.head? = some 'E'

/-- Reads a fraction from behind the point, for a whole part of which `uncounted` digits were
only counted. -/
def fraction (negative : Bool) (whole uncounted : Nat) : Reader Number := fun text =>
  let digits := text.takeWhile Char.isDigit
  let rest := text.dropWhile Char.isDigit
  if digits.isEmpty then
    if rest.isEmpty then .error (.atEnd .endInValue) else .error (.behindNext .badNumber rest)
  else
    let (significand, dropped) := collectDigits whole digits
    let start : Int := uncounted - (digits.length - dropped : Nat)
    if startsExponent rest then exponent negative significand start rest.tail
    else scaledNumber negative significand start rest

/-- A whole number: exact in 64 bits, a machine number for the negative zero and below the
range. -/
def wholeNumber (negative : Bool) (size : Nat) : Number :=
  if !negative then .integer size
  else if 0 < size && size ≤ Word.count 63 then .integer (-size)
  else .real (-(Float.ofNat size))

/-- Reads a number from behind its sign. -/
def number (negative : Bool) : Reader Number := fun text =>
  let digits := text.takeWhile Char.isDigit
  let rest := text.dropWhile Char.isDigit
  match digits with
  | [] =>
    if text.isEmpty then .error (.atEnd .endInValue) else .error (.behindNext .badNumber text)
  | '0' :: _ :: _ => .error (.behindNext .badNumber text.tail)
  | _ =>
    let (significand, uncounted) := collectDigits 0 digits
    if rest.head? = some '.' then fraction negative significand uncounted rest.tail
    else if startsExponent rest then exponent negative significand uncounted rest.tail
    else if uncounted = 0 then .ok (wholeNumber negative significand, rest)
    else scaledNumber negative significand uncounted rest

end JunctionReplay.Json
