import JunctionReplay.Decimal.Written
import JunctionReplay.Text.Quoted

/-!
# Shapes of documents

A document may be well written and still not be what is asked for.  `ShapeError` holds every way
in which a value of a document can be of the wrong shape, whatever the format of the document.
-/

namespace JunctionReplay

/-- What a document holds at some place. -/
inductive Found where
  | nothing
  | truth (value : Bool)
  | integer (value : Int)
  | real (value : Float)
  | text (value : String)
  | list
  | table
  deriving Repr, DecidableEq

/-- What is asked for at some place of a document. -/
inductive Wanted where
  | real
  /-- A natural number below `2 ^ 32`. -/
  | count32
  /-- A natural number below `2 ^ 64`. -/
  | count64
  /-- A natural number below `2 ^ 64` that counts places. -/
  | size
  | truth
  | text
  | list
  | table
  /-- A record of the given name. -/
  | record (name : String)
  deriving Repr, DecidableEq

/-- Why a value of a document is not of the shape that is asked for. -/
inductive ShapeError where
  /-- A value of another kind than the one asked for. -/
  | wrongKind (found : Found) (wanted : Wanted)
  /-- A value of a fitting kind outside of the range asked for. -/
  | wrongValue (found : Found) (wanted : Wanted)
  /-- A record written as a list that ends before a required field. -/
  | tooShort (length : Nat) (record : String) (fields : Nat)
  /-- A record written as a list with more items than fields. -/
  | tooLong (length : Nat)
  /-- A record without a required field. -/
  | missingField (name : String)
  /-- A name that is none of the choices. -/
  | unknownChoice (name : String) (choices : List String)
  /-- A choice written neither as text nor as a table. -/
  | notAChoice
  /-- A choice written as a table with no entry. -/
  | noChoice
  /-- A choice written as a table with several entries. -/
  | severalChoices
  /-- A choice that carries tables with headers of their own although it has no content. -/
  | choiceWithTables
  /-- A choice that carries a list or a table although it has no content. -/
  | choiceWithEntries
  /-- A choice that carries something else, named by its kind. -/
  | choiceWithContent (kind : String)
  deriving Repr, DecidableEq

namespace Found

/-- A short description; `realText` writes the numbers that are not whole. -/
def describe (realText : Float → String) : Found → String
  | .nothing => "null"
  | .truth value => if value then "boolean `true`" else "boolean `false`"
  | .integer value =>
    "integer `" ++ (if value < 0 then "-" else "") ++ Decimal.natText value.natAbs ++ "`"
  | .real value => "floating point `" ++ realText value ++ "`"
  | .text value => "string " ++ Text.quoted value
  | .list => "sequence"
  | .table => "map"

end Found

namespace Wanted

/-- The name under which a message asks for a shape. -/
def describe : Wanted → String
  | .real => "f64"
  | .count32 => "u32"
  | .count64 => "u64"
  | .size => "usize"
  | .truth => "a boolean"
  | .text => "a string"
  | .list => "a sequence"
  | .table => "a map"
  | .record name => "struct " ++ name

end Wanted

namespace ShapeError

/-- The message for a value of the wrong shape. -/
def message (realText : Float → String) : ShapeError → String
  | .wrongKind found wanted =>
    "invalid type: " ++ found.describe realText ++ ", expected " ++ wanted.describe
  | .wrongValue found wanted =>
    "invalid value: " ++ found.describe realText ++ ", expected " ++ wanted.describe
  | .tooShort length record fields =>
    "invalid length " ++ Decimal.natText length ++ ", expected struct " ++ record ++ " with " ++
      Decimal.natText fields ++ (if fields = 1 then " element" else " elements")
  | .tooLong length =>
    "invalid length " ++ Decimal.natText length ++ ", expected fewer elements in array"
  | .missingField name => "missing field `" ++ name ++ "`"
  | .unknownChoice name choices =>
    "unknown variant `" ++ name ++ "`, expected one of " ++
      ", ".intercalate (choices.map fun choice => "`" ++ choice ++ "`")
  | .notAChoice => "wanted string or table"
  | .noChoice => "wanted exactly 1 element, found 0 elements"
  | .severalChoices => "wanted exactly 1 element, more than 1 element"
  | .choiceWithTables => "expected empty array"
  | .choiceWithEntries => "expected empty table"
  | .choiceWithContent kind => "expected table, found " ++ kind

end ShapeError

end JunctionReplay
