import JunctionReplay.Text.CharacterClass

/-!
# Quoted text

Text as it is quoted inside a message: between double quotes, on one line, and with every
character that could not be seen for itself written by its code point.
-/

namespace JunctionReplay.Text

/-- A code point in braces, in hexadecimal. -/
def codePoint (c : Char) : List Char :=
  ['\\', 'u', '\x7b'] ++ Nat.toDigits 16 c.toNat ++ ['\x7d']

/-- What is written for one character of a quoted text. -/
def quotedCharacter (c : Char) : List Char :=
  match c with
  | '\x00' => ['\\', '0']
  | '\t' => ['\\', 't']
  | '\r' => ['\\', 'r']
  | '\n' => ['\\', 'n']
  | '\\' => ['\\', '\\']
  | '\x22' => ['\\', '\x22']
  | _ => if isCombining c || !isPrintable c then codePoint c else [c]

/-- The text between double quotes. -/
def quoted (text : String) : String :=
  String.ofList ('\x22' :: text.toList.flatMap quotedCharacter ++ ['\x22'])

end JunctionReplay.Text
