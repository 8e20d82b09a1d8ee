import JunctionReplay.Decimal.Written
import JunctionReplay.Toml.Place

/-!
# Excerpts

What a message shows of a text: one line, with a place marked underneath.  Of a place that goes
on behind its line, only the part within the line is marked.
-/

namespace JunctionReplay.Toml

/-- A line of a text with a place in it. -/
structure Excerpt where
  /-- The number of the line, the first one being 1. -/
  line : Nat
  content : String
  /-- The number of characters of the line in front of the place. -/
  indent : Nat
  /-- The number of marks underneath. -/
  marks : Nat
  deriving Repr, DecidableEq

namespace Excerpt

/-- The number of bytes of a text. -/
def byteCount (text : List Char) : Nat := text.foldl (fun count c => count + c.utf8Size) 0

/-- The last line of a text. -/
def lastLine (text : List Char) : List Char := (text.reverse.takeWhile (· ≠ '\n')).reverse

/-- The excerpt for a place of a text.  There is a mark for each byte of the place, but no more
than what the bytes of the line leave beside the indent, and at least one. -/
def ofPlace (text : List Char) (place : Place) : Excerpt :=
  let before := text.take (text.length - place.start.length)
  let indent := (lastLine before).length
  let content := lastLine before ++ place.start.takeWhile (· ≠ '\n')
  { line := before.count '\n' + 1
    content := String.ofList content
    indent := indent
    marks := max 1 (min (byteCount place.start - byteCount place.stop)
      (byteCount content - indent)) }

/-- A character several times over. -/
def row (count : Nat) (c : Char) : String := String.ofList (List.replicate count c)

/-- The lines of a message that shows an excerpt, the last of which is ended, too. -/
def render (excerpt : Excerpt) (message : String) : String :=
  let number := Decimal.natText excerpt.line
  let margin := row (number.length + 1) ' ' ++ "|"
  "TOML parse error at line " ++ number ++ ", column " ++ Decimal.natText (excerpt.indent + 1) ++
    "\n" ++ margin ++ "\n" ++ number ++ " | " ++ excerpt.content ++ "\n" ++ margin ++
    row (excerpt.indent + 1) ' ' ++ row excerpt.marks '^' ++ "\n" ++ message ++ "\n"

end Excerpt

end JunctionReplay.Toml
