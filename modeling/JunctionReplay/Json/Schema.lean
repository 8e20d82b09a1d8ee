import JunctionReplay.Json.Value
import JunctionReplay.Word

/-!
# Schemas of JSON records

A record of a document is described by the list of its fields, and `record` reads both ways of
writing one: as an object with a member for each field, and as a list with the fields in their
order.

## Which fault is reported

An object is read in the order of its member names, and a missing field is noticed after all
members have been read.  A list is read from the front, and an item too many is noticed at its
end.  Members that name no field are passed over.
-/

namespace JunctionReplay.Json

/-- Reads one value of a document. -/
abbrev Decoder (β : Type) := Value → Except ShapeError β

namespace Decoder

/-- Any number. -/
def real : Decoder Float
  | .number number => .ok number.toFloat
  | other => .error (.wrongKind other.found .real)

/-- A natural number below `2 ^ 32`, not written as a fraction. -/
def count32 : Decoder Nat
  | .number (.integer value) =>
    if 0 ≤ value ∧ value < Word.count 32 then .ok value.toNat
    else .error (.wrongValue (.integer value) .count32)
  | other => .error (.wrongKind other.found .count32)

/-- A text. -/
def text : Decoder String
  | .text value => .ok value
  | other => .error (.wrongKind other.found .text)

/-- A list of values of one kind. -/
def list {β : Type} (item : Decoder β) : Decoder (List β)
  | .list items => items.mapM item
  | other => .error (.wrongKind other.found .list)

/-- A value that may be null. -/
def nullable {β : Type} (decoder : Decoder β) : Decoder (Option β)
  | .null => .ok none
  | other => (decoder other).map some

/-- Any value at all. -/
def any : Decoder Value := .ok

end Decoder

/-- A field of a record: its name, whether it has to be there, and how its value is entered. -/
structure RecordField (δ : Type) where
  name : String
  isRequired : Bool
  enter : Value → δ → Except ShapeError δ

namespace RecordField

variable {β δ : Type}

/-- A field that has to be there. -/
def required (name : String) (decoder : Decoder β) (put : β → δ → δ) : RecordField δ where
  name := name
  isRequired := true
  enter value record := (decoder value).map fun read => put read record

/-- A field that keeps its default when it is not there. -/
def optional (name : String) (decoder : Decoder β) (put : β → δ → δ) : RecordField δ where
  name := name
  isRequired := false
  enter value record := (decoder value).map fun read => put read record

end RecordField

variable {δ : Type}

/-- Enters the member of an object into the record, if it names a field. -/
def enterMember (fields : List (RecordField δ)) (record : δ) (member : String × Value) :
    Except ShapeError δ :=
  match fields.find? fun field => field.name = member.1 with
  | some field => field.enter member.2 record
  | none => .ok record

/-- The first required field that an object does not have. -/
def missingField? (fields : List (RecordField δ)) (members : List (String × Value)) :
    Option (RecordField δ) :=
  fields.find? fun field => field.isRequired && (Keyed.get? field.name members).isNone

/-- Enters the items of a list into the fields from the front; `tooShort` and `tooLong` are the
faults of a list that does not fit. -/
def enterItems (tooShort tooLong : ShapeError) :
    List (RecordField δ) → List Value → δ → Except ShapeError δ
  | [], [], record => .ok record
  | [], _ :: _, _ => .error tooLong
  | field :: fields, [], record =>
    if field.isRequired then .error tooShort else enterItems tooShort tooLong fields [] record
  | field :: fields, value :: values, record => do
    enterItems tooShort tooLong fields values (← field.enter value record)

/-- Reads a record with the given fields, starting from the record of all defaults. -/
def record (name : String) (fields : List (RecordField δ)) (default : δ) : Decoder δ
  | .object members => do
    let read ← members.foldlM (enterMember fields) default
    match missingField? fields members with
    | some field => .error (.missingField field.name)
    | none => .ok read
  | .list items =>
    enterItems (.tooShort items.length name fields.length) (.tooLong items.length)
      fields items default
  | other => .error (.wrongKind other.found (.record name))

end JunctionReplay.Json
