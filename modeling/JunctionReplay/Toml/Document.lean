import JunctionReplay.Toml.Moment
import JunctionReplay.Toml.Number
import JunctionReplay.Toml.Table
import JunctionReplay.Toml.Text

/-!
# Reading TOML documents

A document is a sequence of lines: headers of tables, entries of the table under the last header,
blank lines, and comments.  `statements` reads the lines, and `assemble` enters them one after
the other into the document, in which the table under the current header is kept apart until the
next one.  Keys and values keep their places.

As in JSON, `depth` counts the brackets that may still be opened, and `fuel` bounds the number of
items by the length of the text.
-/

namespace JunctionReplay.Toml

/-- The limit for the nesting of brackets and for the length of dotted keys. -/
def depthLimit : Nat := 79

/-! ## Keys -/

/-- Characters of keys without quotes. -/
def isBareKey (c : Char) : Bool := c.isAlphanum || c = '-' || c = '_'

/-- Reads one part of a key. -/
def keyPart : Reader String := fun text =>
  match text with
  | '\x22' :: rest => escapedText [] rest.length rest
  | '\x27' :: rest => literalText [] rest
  | _ =>
    let bare := text.takeWhile isBareKey
    if bare.isEmpty then none else some (String.ofList bare, text.dropWhile isBareKey)

/-- The parts of a dotted key, of which there is at least one. -/
structure KeyPath where
  /-- The parts in front of the last one. -/
  parents : List Key
  last : Key
  deriving Repr, DecidableEq

/-- Reads the parts of a key, with points between them and blanks around them; `parents` holds the
last one first. -/
def keyParts (parents : List Key) : (fuel : Nat) → Reader KeyPath
  | 0, _ => none
  | fuel + 1, text =>
    match keyPart.placed (skipBlanks text) with
    | none => none
    | some ((place, name), rest) =>
      match skipBlanks rest with
      | '.' :: rest => keyParts (⟨name, place⟩ :: parents) fuel rest
      | rest => some (⟨parents.reverse, ⟨name, place⟩⟩, rest)

/-- Reads a key of not too many parts. -/
def key : Reader KeyPath := fun text =>
  (keyParts [] (text.length + 1) text).filter fun read => read.1.parents.length < depthLimit

/-! ## Values -/

/-- The text behind a comment, which ends in front of a line break. -/
def skipComment : List Char → List Char
  | '#' :: rest => rest.dropWhile isPlain
  | text => text

/-- The text behind blanks, comments and line breaks. -/
def skipTrivia : (fuel : Nat) → List Char → List Char
  | 0, text => text
  | fuel + 1, text =>
    let rest := skipComment (skipBlanks text)
    match lineBreak? rest with
    | some rest => skipTrivia fuel rest
    | none => rest

/-- Reads the items of a list up to its closing bracket; `read` holds the last one first. -/
def listItems (item : (fuel : Nat) → Reader (Located Value)) (read : List (Located Value)) :
    (fuel : Nat) → Reader Value
  | 0, _ => none
  | fuel + 1, text =>
    match skipTrivia fuel text with
    | ']' :: rest => some (.list read.reverse, rest)
    | text =>
      match item fuel text with
      | none => none
      | some (value, rest) =>
        match skipTrivia fuel rest with
        | ',' :: rest => listItems item (value :: read) fuel rest
        | ']' :: rest => some (.list (value :: read).reverse, rest)
        | _ => none

/-- Reads one entry of a table within a line. -/
def inlineEntry (item : (fuel : Nat) → Reader (Located Value)) (fuel : Nat) :
    Reader (KeyPath × Located Value) := fun text =>
  match key text with
  | some (path, '=' :: rest) =>
    (item fuel (skipBlanks rest)).map fun (value, rest) => ((path, value), skipBlanks rest)
  | _ => none

/-- Reads the entries of a table within a line up to its closing bracket, which may not follow a
comma. -/
def inlineEntries (item : (fuel : Nat) → Reader (Located Value)) (read : Entries) :
    (fuel : Nat) → Reader Value
  | 0, _ => none
  | fuel + 1, text =>
    match inlineEntry item fuel text with
    | none => none
    | some ((path, value), rest) =>
      match addValue path.parents path.last value .passed read with
      | none => none
      | some read =>
        match rest with
        | ',' :: rest => inlineEntries item read fuel rest
        | '\x7d' :: rest => some (.table (finishEntries read), rest)
        | _ => none

/-- Reads a table within a line from behind its opening bracket. -/
def inlineTable (item : (fuel : Nat) → Reader (Located Value)) (fuel : Nat) : Reader Value :=
  fun text =>
  match skipBlanks text with
  | '\x7d' :: rest => some (.table [], rest)
  | rest => inlineEntries item [] fuel rest

/-- Reads a value that is neither a list nor a table. -/
def plainValue : Reader Value := fun text =>
  match text with
  | 't' :: 'r' :: 'u' :: 'e' :: rest => some (.truth true, rest)
  | 'f' :: 'a' :: 'l' :: 's' :: 'e' :: rest => some (.truth false, rest)
  | '\x22' :: _ | '\x27' :: _ => (quotedText text).map fun (read, rest) => (.text read, rest)
  | _ =>
    match moment text with
    | some read => some read
    | none => number text

/-- Reads a value, in which `depth` more brackets may be opened. -/
def value : (depth fuel : Nat) → Reader Value
  | 0, _, '[' :: _ | 0, _, '\x7b' :: _ => none
  | depth + 1, fuel, '[' :: rest =>
    listItems (fun fuel => (value depth fuel).located) [] fuel rest
  | depth + 1, fuel, '\x7b' :: rest =>
    inlineTable (fun fuel => (value depth fuel).located) fuel rest
  | _, _, text => plainValue text

/-! ## Lines -/

/-- The header of a table. -/
structure Heading where
  path : KeyPath
  /-- Whether the table is one more of a list of tables. -/
  isItem : Bool
  deriving Repr, DecidableEq

/-- What one line of a document says. -/
inductive Statement where
  | heading (heading : Heading) (place : Place)
  | entry (path : KeyPath) (value : Located Value)
  deriving Repr

/-- Reads the header of a table. -/
def heading : Reader Heading := fun text =>
  match text with
  | '[' :: '[' :: rest =>
    match key rest with
    | some (path, ']' :: ']' :: rest) => some (⟨path, true⟩, rest)
    | _ => none
  | '[' :: rest =>
    match key rest with
    | some (path, ']' :: rest) => some (⟨path, false⟩, rest)
    | _ => none
  | _ => none

/-- Reads an entry. -/
def entry : Reader Statement := fun text =>
  match key text with
  | some (path, '=' :: rest) =>
    ((value depthLimit rest.length).located (skipBlanks rest)).map fun (value, rest) =>
      (.entry path value, rest)
  | _ => none

/-- Reads a header or an entry. -/
def statement : Reader Statement := fun text =>
  match text with
  | '[' :: _ =>
    (heading.placed text).map fun ((place, heading), rest) => (.heading heading place, rest)
  | _ => entry text

/-- The text behind the end of a line, in front of which a comment may stand. -/
def lineEnd? (text : List Char) : Option (List Char) :=
  match skipComment (skipBlanks text) with
  | [] => some []
  | rest => lineBreak? rest

/-- Reads the lines of a document; `read` holds the last one first. -/
def statements (read : List Statement) : (fuel : Nat) → List Char → Option (List Statement)
  | 0, _ => none
  | fuel + 1, text =>
    match skipBlanks text with
    | [] => some read.reverse
    | text =>
      match lineEnd? text with
      | some rest => statements read fuel rest
      | none =>
        match statement text with
        | none => none
        | some (line, rest) =>
          match lineEnd? rest with
          | some rest => statements (line :: read) fuel rest
          | none => none

/-! ## The document -/

/-- A table with a header, of which not all entries have been entered. -/
structure OpenTable where
  heading : Heading
  /-- The place of the table, as far as it has been entered. -/
  place : Place
  deriving Repr, DecidableEq

/-- The table with its place extended to the end of a value. -/
def OpenTable.extend (table : OpenTable) (value : Located Value) : OpenTable :=
  match value.place with
  | some place => { table with place := table.place.through place }
  | none => table

/-- A document under construction, with the table under the current header kept apart. -/
structure Draft where
  root : Entries
  /-- The table under the current header; in front of the first one it is the root itself. -/
  current : Option OpenTable
  entries : Entries
  deriving Repr

namespace Draft

/-- A document of which no line has been entered. -/
def empty : Draft := ⟨[], none, []⟩

/-- Enters a table into the one that holds it. -/
def placeTable (table : OpenTable) (entries : Entries) : Change :=
  let key := table.heading.path.last
  if table.heading.isItem then addItem key table.place entries
  else addEntry key (.table (.header table.place) entries)

/-- Enters the table under the current header into the document. -/
def close (draft : Draft) : Option Entries :=
  match draft.current with
  | none => some draft.entries
  | some table =>
    changeAt .passed (placeTable table draft.entries) table.heading.path.parents .passed draft.root

/-- The entries that a table has before its header comes: none, or those of the tables that were
passed through it. -/
def priorEntries (key : Key) (entries : Entries) : Option Entries :=
  match entries.get? key.name with
  | none => some []
  | some (.table .passed inner) => some inner
  | some _ => none

/-- The prior entries of the table at the end of a path. -/
def priorEntriesAt (last : Key) : List Key → Entries → Option Entries
  | [], entries => priorEntries last entries
  | key :: path, entries =>
    match entries.get? key.name with
    | none => some []
    | some (.value _) => none
    | some (.table _ inner) => priorEntriesAt last path inner
    | some (.tables items) => (items.getLast?).bind fun item => priorEntriesAt last path item.2

/-- Whether one more table may be given to the list at a path. -/
def acceptsItem (key : Key) : Change := fun _ entries =>
  match entries.get? key.name with
  | none | some (.tables _) => some entries
  | some _ => none

/-- Takes a table out of the one that holds it. -/
def takeOut (key : Key) : Change := fun _ entries => some (entries.erase key.name)

/-- Begins the table under a header. -/
def beginTable (root : Entries) (table : OpenTable) : Option Draft := do
  let path := table.heading.path
  if table.heading.isItem then
    let rest ← changeAt .passed (acceptsItem path.last) path.parents .passed root
    some ⟨rest, some table, []⟩
  else
    let entries ← priorEntriesAt path.last path.parents root
    let rest ← changeAt .passed (takeOut path.last) path.parents .passed root
    some ⟨rest, some table, entries⟩

/-- Enters a line. -/
def enter (draft : Draft) : Statement → Option Draft
  | .heading heading place => do beginTable (← draft.close) ⟨heading, place⟩
  | .entry path value =>
    (addValue path.parents path.last value .passed draft.entries).map fun entries =>
      { draft with
        current := draft.current.map fun table => table.extend value
        entries := entries }

end Draft

/-- The entries of a document with the given lines. -/
def assemble (lines : List Statement) : Option Entries :=
  (lines.foldlM Draft.enter .empty).bind Draft.close

/-- The text behind a mark of its byte order. -/
def skipByteOrderMark : List Char → List Char
  | '\ufeff' :: rest => rest
  | text => text

/-- Reads a document; `none` when it is not well written. -/
def Value.ofText? (text : String) : Option Value := do
  let characters := skipByteOrderMark text.toList
  let lines ← statements [] (characters.length + 1) characters
  some (.table (finishEntries (← assemble lines)))

end JunctionReplay.Toml
