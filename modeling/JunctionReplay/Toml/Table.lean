import JunctionReplay.Toml.Value

/-!
# Tables under construction

The entries of a document arrive under headers and dotted keys in any order, and no table may be
given twice.  A table under construction therefore remembers how it came about, and an operation
on a path of keys fails where it would give something a second time.
-/

namespace JunctionReplay.Toml

/-- How a table came about. -/
inductive Origin where
  /-- By a header of its own.  Its place reaches from the header to the end of its last entry. -/
  | header (place : Place)
  /-- On the way to a table with a header. -/
  | passed
  /-- By a dotted key. -/
  | dotted
  deriving Repr, DecidableEq

namespace Origin

/-- Whether a table has a header of its own. -/
def isHeader : Origin → Bool
  | .header _ => true
  | .passed | .dotted => false

/-- Whether a table came about by a dotted key. -/
def isDotted : Origin → Bool
  | .dotted => true
  | .header _ | .passed => false

/-- The place of a table, of which only those with a header have one. -/
def place? : Origin → Option Place
  | .header place => some place
  | .passed | .dotted => none

end Origin

/-- An entry of a table under construction. -/
inductive Entry where
  | value (value : Located Value)
  | table (origin : Origin) (entries : List (Key × Entry))
  /-- A list of tables that each have a header of their own. -/
  | tables (items : List (Place × List (Key × Entry)))
  deriving Repr

/-- The entries of a table under construction. -/
abbrev Entries := List (Key × Entry)

namespace Entries

/-- The entry with the given name. -/
def get? (name : String) : Entries → Option Entry
  | [] => none
  | entry :: rest => if entry.1.name = name then some entry.2 else get? name rest

/-- The entries with one of them replaced, which keeps its key. -/
def set (name : String) (value : Entry) (entries : Entries) : Entries :=
  entries.map fun entry => if entry.1.name = name then (entry.1, value) else entry

/-- The entries without one of them. -/
def erase (name : String) (entries : Entries) : Entries :=
  entries.filter fun entry => entry.1.name ≠ name

/-- The entries with one more at their end. -/
def append (key : Key) (value : Entry) (entries : Entries) : Entries :=
  entries ++ [(key, value)]

end Entries

/-- What becomes of a table: the origin tells how it came about. -/
abbrev Change := Origin → Entries → Option Entries

/-- Changes the table at the end of a path of keys.  Tables that are missing on the way come about
as `missing` says; a list of tables stands for its last one.  Dotted keys do not lead into tables
with a header of their own. -/
def changeAt (missing : Origin) (change : Change) : List Key → Change
  | [], origin, entries => change origin entries
  | key :: path, _, entries =>
    match entries.get? key.name with
    | none =>
      (changeAt missing change path missing []).map fun changed =>
        entries.append key (.table missing changed)
    | some (.value _) => none
    | some (.table origin inner) =>
      if missing.isDotted && origin.isHeader then none
      else
        (changeAt missing change path origin inner).map fun changed =>
          entries.set key.name (.table origin changed)
    | some (.tables items) =>
      match items.reverse with
      | [] => none
      | (place, last) :: earlier =>
        (changeAt missing change path (.header place) last).map fun changed =>
          entries.set key.name (.tables ((place, changed) :: earlier).reverse)

/-- Gives a new entry to a table. -/
def addEntry (key : Key) (value : Entry) : Change := fun _ entries =>
  match entries.get? key.name with
  | some _ => none
  | none => some (entries.append key value)

/-- Gives a value to the table at the end of a dotted path, which has to have come about by dotted
keys, too. -/
def addValue (path : List Key) (key : Key) (value : Located Value) : Change :=
  changeAt .dotted
    (fun origin entries =>
      if origin.isDotted = path.isEmpty then none
      else addEntry key (.value value) origin entries)
    path

/-- Gives one more table to a list of tables. -/
def addItem (key : Key) (place : Place) (item : Entries) : Change := fun _ entries =>
  match entries.get? key.name with
  | none => some (entries.append key (.tables [(place, item)]))
  | some (.tables items) => some (entries.set key.name (.tables (items ++ [(place, item)])))
  | some _ => none

/-- The place of a list of tables, from its first table to the end of its last one. -/
def placeOfItems (items : List (Place × Entries)) : Option Place :=
  match items.head?, items.getLast? with
  | some (first, _), some (last, _) => some (first.through last)
  | _, _ => none

mutual

/-- The finished value of an entry. -/
def Entry.finish : Entry → Located Value
  | .value value => value
  | .table origin entries => ⟨origin.place?, .table (finishEntries entries)⟩
  | .tables items => ⟨placeOfItems items, .tables (finishItems items)⟩

/-- The finished entries of a table. -/
def finishEntries : List (Key × Entry) → List (Key × Located Value)
  | [] => []
  | (key, entry) :: rest => (key, entry.finish) :: finishEntries rest

/-- The finished tables of a list. -/
def finishItems : List (Place × List (Key × Entry)) → List (Located Value)
  | [] => []
  | (place, entries) :: rest => ⟨some place, .table (finishEntries entries)⟩ :: finishItems rest

end

end JunctionReplay.Toml
