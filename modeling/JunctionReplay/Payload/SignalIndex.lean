import JunctionReplay.Json.Value
import JunctionReplay.Text.CharacterClass
import JunctionReplay.Text.Numeral
import JunctionReplay.Word

/-!
# Signal indices

A connection names its signal by a number, which may also be written as text: digits, perhaps
with a plus in front and white space around.  Indices have 64 bits.
-/

namespace JunctionReplay.Payload

open Json (Value)

/-- The bound below which signal indices lie. -/
def indexLimit : Nat := Word.count 64

/-- The characters behind a plus in front. -/
def dropPlus : List Char → List Char
  | '+' :: rest => rest
  | characters => characters

/-- The index that a text stands for. -/
def indexOfText? (text : String) : Option Nat :=
  (Text.numeral? 10 (dropPlus (Text.trimBlank text.toList))).filter (· < indexLimit)

/-- The index that a value of a document stands for. -/
def indexOfValue? : Value → Option Nat
  | .number (.integer value) => if 0 ≤ value then some value.toNat else none
  | .text text => indexOfText? text
  | _ => none

end JunctionReplay.Payload
