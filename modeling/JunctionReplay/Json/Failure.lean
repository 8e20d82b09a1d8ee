/-!
# Failures of reading JSON

A reader fails with a cause and the text that was left, and `Failure.locate` turns the latter
into a line and a column once the whole text is at hand.

Columns count bytes.  A place lies behind the byte that shows the fault where there is one, and
at the end of the text where there is none.
-/

namespace JunctionReplay.Json

/-- What is wrong with a text that is not a document. -/
inductive Cause where
  | endInList
  | endInObject
  | endInText
  | endInValue
  | missingColon
  | missingListComma
  | missingObjectComma
  | unknownWord
  | missingValue
  | badEscape
  | badNumber
  | numberTooLarge
  | controlCharacter
  | nameNotText
  | loneSurrogate
  | trailingComma
  | trailingText
  | unfinishedSurrogate
  | tooDeep
  deriving Repr, DecidableEq

/-- The words for a cause. -/
def Cause.describe : Cause → String
  | .endInList => "EOF while parsing a list"
  | .endInObject => "EOF while parsing an object"
  | .endInText => "EOF while parsing a string"
  | .endInValue => "EOF while parsing a value"
  | .missingColon => "expected `:`"
  | .missingListComma => "expected `,` or `]`"
  | .missingObjectComma => "expected `,` or `\x7d`"
  | .unknownWord => "expected ident"
  | .missingValue => "expected value"
  | .badEscape => "invalid escape"
  | .badNumber => "invalid number"
  | .numberTooLarge => "number out of range"
  | .controlCharacter => "control character (\\u0000-\\u001F) found while parsing a string"
  | .nameNotText => "key must be a string"
  | .loneSurrogate => "lone leading surrogate in hex escape"
  | .trailingComma => "trailing comma"
  | .trailingText => "trailing characters"
  | .unfinishedSurrogate => "unexpected end of hex escape"
  | .tooDeep => "recursion limit exceeded"

/-- A cause with the place where it shows: `beyond` bytes into the text that was left. -/
structure Failure where
  cause : Cause
  rest : List Char
  beyond : Nat
  deriving Repr, DecidableEq

namespace Failure

/-- A fault at the end of the text. -/
def atEnd (cause : Cause) : Failure := ⟨cause, [], 0⟩

/-- A fault that shows in front of the text that is left. -/
def before (cause : Cause) (rest : List Char) : Failure := ⟨cause, rest, 0⟩

/-- A fault that the next byte shows. -/
def behindNext (cause : Cause) (rest : List Char) : Failure := ⟨cause, rest, 1⟩

end Failure

/-- The number of bytes of a text. -/
def byteCount (characters : List Char) : Nat :=
  characters.foldl (fun count c => count + c.utf8Size) 0

/-- A place in a text. -/
structure Place where
  /-- The line, counted from one. -/
  line : Nat
  /-- The number of bytes of the line in front of the place. -/
  column : Nat
  deriving Repr, DecidableEq

/-- The place that lies a number of bytes behind another one. -/
def Place.advance (place : Place) : Nat → List Char → Place
  | 0, _ => place
  | _, [] => place
  | count, c :: rest =>
    if c = '\n' then Place.advance ⟨place.line + 1, 0⟩ (count - 1) rest
    else if c.utf8Size ≤ count then
      Place.advance ⟨place.line, place.column + c.utf8Size⟩ (count - c.utf8Size) rest
    else ⟨place.line, place.column + count⟩

/-- The place of a failure in the whole text. -/
def Failure.locate (failure : Failure) (whole : List Char) : Place :=
  Place.advance ⟨1, 0⟩ (byteCount whole - byteCount failure.rest + failure.beyond) whole

end JunctionReplay.Json
