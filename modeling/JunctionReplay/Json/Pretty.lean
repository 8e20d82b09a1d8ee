import JunctionReplay.Json.Value

/-!
# Writing JSON documents

Documents are written over several lines with an indentation of two spaces, members in the order
in which they stand.  Numbers that are not finite have no form in JSON and are written as null.
-/

namespace JunctionReplay.Json

/-- What stands for one character between the quotes of a text. -/
def escapedCharacter (c : Char) : List Char :=
  match c with
  | '\x22' => ['\\', '\x22']
  | '\\' => ['\\', '\\']
  | '\x08' => ['\\', 'b']
  | '\x0c' => ['\\', 'f']
  | '\n' => ['\\', 'n']
  | '\r' => ['\\', 'r']
  | '\t' => ['\\', 't']
  | _ =>
    if c.toNat < 0x20 then
      ['\\', 'u', '0', '0', Nat.digitChar (c.toNat / 16), Nat.digitChar (c.toNat % 16)]
    else [c]

/-- A text between its quotes. -/
def quotedText (text : String) : String :=
  String.ofList ('\x22' :: text.toList.flatMap escapedCharacter ++ ['\x22'])

/-- A number as it stands in a document. -/
def Number.written : Number → String
  | .integer value => (if value < 0 then "-" else "") ++ Decimal.natText value.natAbs
  | .real value => if value.isFinite then Decimal.compact value else "null"

/-- A line break and the indentation behind it. -/
def newLine (depth : Nat) : String :=
  String.ofList ('\n' :: List.replicate (2 * depth) ' ')

/-- Items between brackets, each on a line of its own. -/
def bracketed (opening closing : String) (depth : Nat) (items : List String) : String :=
  if items.isEmpty then opening ++ closing
  else
    opening ++ ",".intercalate (items.map fun item => newLine (depth + 1) ++ item) ++
      newLine depth ++ closing

mutual

/-- The text of a value inside `depth` brackets. -/
def Value.pretty (depth : Nat) : Value → String
  | .null => "null"
  | .truth value => if value then "true" else "false"
  | .number value => value.written
  | .text value => quotedText value
  | .list items => bracketed "[" "]" depth (prettyItems (depth + 1) items)
  | .object members => bracketed "\x7b" "\x7d" depth (prettyMembers (depth + 1) members)

/-- The texts of the items of a list. -/
def prettyItems (depth : Nat) : List Value → List String
  | [] => []
  | item :: rest => item.pretty depth :: prettyItems depth rest

/-- The texts of the members of an object. -/
def prettyMembers (depth : Nat) : List (String × Value) → List String
  | [] => []
  | (name, value) :: rest =>
    (quotedText name ++ ": " ++ value.pretty depth) :: prettyMembers depth rest

end

end JunctionReplay.Json
