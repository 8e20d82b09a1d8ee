import JunctionReplay.Keyed
import JunctionReplay.Shape

/-!
# JSON values

A document after its text has been read.  Whole numbers of 64 bits are kept exactly; every other
number is a machine number.  The members of an object that was read are in the order of their
names, each name once.
-/

namespace JunctionReplay.Json

/-- A number of a document. -/
inductive Number where
  /-- A whole number from `-2 ^ 63` up to `2 ^ 64 - 1`. -/
  | integer (value : Int)
  | real (value : Float)
  deriving Repr, DecidableEq

/-- A value of a document. -/
inductive Value where
  | null
  | truth (value : Bool)
  | number (value : Number)
  | text (value : String)
  | list (items : List Value)
  | object (members : List (String × Value))
  deriving Repr

/-- The number as a machine number. -/
def Number.toFloat : Number → Float
  | .integer value => Float.ofInt value
  | .real value => value

namespace Value

/-- What a message says that the document holds. -/
def found : Value → Found
  | .null => .nothing
  | .truth value => .truth value
  | .number (.integer value) => .integer value
  | .number (.real value) => .real value
  | .text value => .text value
  | .list _ => .list
  | .object _ => .table

/-- The member of an object with the given name. -/
def member? (name : String) : Value → Option Value
  | .object members => Keyed.get? name members
  | _ => none

end Value

end JunctionReplay.Json
