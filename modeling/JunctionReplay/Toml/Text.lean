import JunctionReplay.Text.Numeral
import JunctionReplay.Toml.Value

/-!
# Reading TOML texts

Texts stand between quotes: double quotes, in which a backslash starts an escape, or single ones,
in which every character stands for itself.  Three quotes enclose a text of several lines.
-/

namespace JunctionReplay.Toml

/-- Blanks within a line. -/
def isBlank (c : Char) : Bool := c = ' ' || c = '\t'

/-- The text behind blanks. -/
def skipBlanks (text : List Char) : List Char := text.dropWhile isBlank

/-- Characters that may stand in a line as they are: all but the control characters. -/
def isPlain (c : Char) : Bool := c = '\t' || (' ' ≤ c && c ≠ '\x7f')

/-- The text behind a line break. -/
def lineBreak? : List Char → Option (List Char)
  | '\n' :: rest => some rest
  | '\r' :: '\n' :: rest => some rest
  | _ => none

/-- The text behind blanks and line breaks. -/
def skipLines : (fuel : Nat) → List Char → List Char
  | 0, text => text
  | fuel + 1, text =>
    match lineBreak? (skipBlanks text) with
    | some rest => skipLines fuel rest
    | none => skipBlanks text

/-! ## Escapes -/

/-- The character with the given code point, surrogates excepted. -/
def characterOf? (codePoint : Nat) : Option Char :=
  if codePoint.isValidChar then some (Char.ofNat codePoint) else none

/-- Reads a code point of a set number of hexadecimal digits. -/
def codePoint (length : Nat) : Reader Char := fun text => do
  if (text.take length).length < length then none
  else
    let point ← Text.numeral? 16 (text.take length)
    some (← characterOf? point, text.drop length)

/-- Reads an escape from behind the backslash. -/
def escape : Reader Char
  | 'b' :: rest => some ('\x08', rest)
  | 'f' :: rest => some ('\x0c', rest)
  | 'n' :: rest => some ('\n', rest)
  | 'r' :: rest => some ('\r', rest)
  | 't' :: rest => some ('\t', rest)
  | '\x22' :: rest => some ('\x22', rest)
  | '\\' :: rest => some ('\\', rest)
  | 'u' :: rest => codePoint 4 rest
  | 'U' :: rest => codePoint 8 rest
  | _ => none

/-! ## Texts of one line -/

/-- Reads a text with escapes up to its closing quote; `read` holds the last character first. -/
def escapedText (read : List Char) : (fuel : Nat) → Reader String
  | 0, _ => none
  | _, [] => none
  | fuel + 1, c :: rest =>
    if c = '\x22' then some (String.ofList read.reverse, rest)
    else if c = '\\' then
      match escape rest with
      | some (escaped, rest) => escapedText (escaped :: read) fuel rest
      | none => none
    else if isPlain c then escapedText (c :: read) fuel rest
    else none

/-- Reads a text without escapes up to its closing quote. -/
def literalText (read : List Char) : Reader String
  | [] => none
  | c :: rest =>
    if c = '\x27' then some (String.ofList read.reverse, rest)
    else if isPlain c then literalText (c :: read) rest
    else none

/-! ## Texts of several lines -/

/-- The number of quotes in front of a text. -/
def quoteCount (quote : Char) (text : List Char) : Nat :=
  (text.takeWhile (· = quote)).length

/-- The text behind a backslash that ends its line, without the blanks and line breaks that
follow. -/
def joinedLine? (text : List Char) : Option (List Char) :=
  (lineBreak? (skipBlanks text)).map fun rest => skipLines rest.length rest

/-- Reads a text of several lines up to its three closing quotes, in front of which up to two
more may stand; `read` holds the last character first. -/
def linesText (quote : Char) (escapes : Bool) (read : List Char) : (fuel : Nat) → Reader String
  | 0, _ => none
  | _, [] => none
  | fuel + 1, c :: rest =>
    if c = quote then
      let count := quoteCount quote (c :: rest)
      let inner := if count < 3 then count else min (count - 3) 2
      let read := List.replicate inner quote ++ read
      if count < 3 then linesText quote escapes read fuel ((c :: rest).drop count)
      else some (String.ofList read.reverse, (c :: rest).drop (inner + 3))
    else if escapes && c = '\\' then
      match joinedLine? rest with
      | some rest => linesText quote escapes read fuel rest
      | none =>
        match escape rest with
        | some (escaped, rest) => linesText quote escapes (escaped :: read) fuel rest
        | none => none
    else
      match lineBreak? (c :: rest) with
      | some rest => linesText quote escapes ('\n' :: read) fuel rest
      | none => if isPlain c then linesText quote escapes (c :: read) fuel rest else none

/-- The text behind a line break, which may be missing. -/
def skipLineBreak (text : List Char) : List Char := (lineBreak? text).getD text

/-- Reads a text from its opening quotes on. -/
def quotedText : Reader String
  | '\x22' :: '\x22' :: '\x22' :: rest =>
    linesText '\x22' true [] rest.length (skipLineBreak rest)
  | '\x27' :: '\x27' :: '\x27' :: rest => linesText '\x27' false [] rest.length (skipLineBreak rest)
  | '\x22' :: rest => escapedText [] rest.length rest
  | '\x27' :: rest => literalText [] rest
  | _ => none

end JunctionReplay.Toml
