import JunctionReplay.Shape
import JunctionReplay.Toml.Place

/-!
# TOML values

A document of settings after its text has been read.  The entries of a table stand in the order
in which they were written, and what a list or a table holds has its place in the text.
-/

namespace JunctionReplay.Toml

/-- A value of a document. -/
inductive Value where
  | text (value : String)
  | integer (value : Int)
  | real (value : Float)
  | truth (value : Bool)
  /-- A date, a time, or both, in their shortest form. -/
  | moment (written : String)
  | list (items : List (Located Value))
  /-- A list of tables that each have a header of their own. -/
  | tables (items : List (Located Value))
  | table (entries : List (Key × Located Value))
  deriving Repr

namespace Value

/-- What a message says that the document holds. -/
def found : Value → Found
  | .text value => .text value
  | .integer value => .integer value
  | .real value => .real value
  | .truth value => .truth value
  | .moment _ => .table
  | .list _ | .tables _ => .list
  | .table _ => .table

/-- The name of the kind of a value. -/
def kind : Value → String
  | .text _ => "string"
  | .integer _ => "integer"
  | .real _ => "float"
  | .truth _ => "boolean"
  | .moment _ => "datetime"
  | .list _ => "array"
  | .tables _ => "array of tables"
  | .table _ => "table"

end Value

/-- What a reader takes off the front of a text; `none` when the text is not well written. -/
abbrev Reader (β : Type) := List Char → Option (β × List Char)

namespace Reader

variable {β : Type}

/-- Reads something together with its place. -/
def placed (reader : Reader β) : Reader (Place × β) := fun text =>
  (reader text).map fun (read, rest) => ((⟨text, rest⟩, read), rest)

/-- Reads something that is written in one place. -/
def located (reader : Reader β) : Reader (Located β) := fun text =>
  (reader text).map fun (read, rest) => (⟨some ⟨text, rest⟩, read⟩, rest)

end Reader

end JunctionReplay.Toml
