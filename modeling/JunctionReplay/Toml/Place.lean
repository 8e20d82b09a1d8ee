/-!
# Places in a text

Where something stands in a text.  A reader that takes something off the front of a text knows
what stood in front of it before and after, and these two rests are all that a place holds; lines
and columns are counted only when a place has to be shown.
-/

namespace JunctionReplay.Toml

/-- A part of a text. -/
structure Place where
  /-- The text from its first character on. -/
  start : List Char
  /-- The text behind its last character. -/
  stop : List Char
  deriving Repr, DecidableEq

/-- The part of a text from the start of one place to the end of another. -/
def Place.through (first last : Place) : Place := ⟨first.start, last.stop⟩

/-- A name with the place where it is written. -/
structure Key where
  name : String
  place : Place
  deriving Repr, DecidableEq

/-- Something with the place where it is written, if it is written in one place. -/
structure Located (β : Type) where
  place : Option Place
  content : β
  deriving Repr, DecidableEq

end JunctionReplay.Toml
