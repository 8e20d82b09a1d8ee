/-!
# Signal colors

A state of a traffic light holds one character for each signal index, and each character stands
for a color.  Where several lanes are taken together, green wins over yellow and yellow over red.
-/

namespace JunctionReplay

/-- The color that a signal shows. -/
inductive Color where
  | green
  | yellow
  | red
  deriving DecidableEq, Repr

namespace Color

/-- The color of a character of a state.  Red and yellow shown together count as yellow, and
every character without a meaning of its own as red. -/
def ofStateChar (c : Char) : Color :=
  if c = 'g' ∨ c = 'G' then green
  else if c = 'y' ∨ c = 'Y' ∨ c = 'u' ∨ c = 'U' then yellow
  else red

/-- The character of a color. -/
def letter : Color → Char
  | green => 'g'
  | yellow => 'y'
  | red => 'r'

@[simp] theorem ofStateChar_letter (color : Color) : ofStateChar color.letter = color := by
  cases color <;> decide

/-- The word for a color. -/
def word : Color → String
  | green => "green"
  | yellow => "yellow"
  | red => "red"

/-- The rank of a color where several are taken together. -/
def priority : Color → Nat
  | green => 2
  | yellow => 1
  | red => 0

end Color

end JunctionReplay
