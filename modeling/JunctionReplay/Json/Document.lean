import JunctionReplay.Json.Number
import JunctionReplay.Text.Numeral

/-!
# Reading JSON documents

`Value.ofText?` reads a whole text.  Readers are total: `depth` counts the brackets that may
still be opened, and `fuel` bounds the number of items by the length of the text, of which every
item takes at least one character.
-/

namespace JunctionReplay.Json

/-- White space between the parts of a document. -/
def isSpace (c : Char) : Bool :=
  c = ' ' || c = '\n' || c = '\t' || c = '\r'

/-- The text behind white space. -/
def skipSpace (text : List Char) : List Char := text.dropWhile isSpace

/-! ## Words and texts -/

/-- Reads the rest of a word that stands for a value. -/
def word (value : Value) : List Char → Reader Value
  | [], text => .ok (value, text)
  | _, [] => .error (.atEnd .endInValue)
  | expected :: word', c :: rest =>
    if c = expected then word value word' rest
    else .error (.behindNext .unknownWord (c :: rest))

/-- Reads four hexadecimal digits; the four bytes are taken even if they are no digits. -/
def hexUnit : Reader Nat := fun text =>
  let failure : Failure :=
    if byteCount text < 4 then .atEnd .endInText else ⟨.badEscape, text, 4⟩
  match text with
  | a :: b :: c :: d :: rest =>
    match Text.numeral? 16 [a, b, c, d] with
    | some unit => .ok (unit, rest)
    | none => .error failure
  | _ => .error failure

/-- Takes one character that must follow the first half of a pair of surrogates. -/
def surrogateMark (mark : Char) : Reader Unit := fun text =>
  match text with
  | [] => .error (.atEnd .endInText)
  | c :: rest =>
    if c = mark then .ok ((), rest) else .error (.behindNext .unfinishedSurrogate (c :: rest))

/-- Reads an escaped code point from behind its mark, with the second escape where the first one
is half of a pair of surrogates. -/
def escapedUnit : Reader Char := fun text => do
  let (first, rest) ← hexUnit text
  if 0xDC00 ≤ first && first ≤ 0xDFFF then .error (.before .loneSurrogate rest)
  else if first < 0xD800 || 0xDBFF < first then .ok (Char.ofNat first, rest)
  else
    let (_, rest) ← surrogateMark '\\' rest
    let (_, rest) ← surrogateMark 'u' rest
    let (second, rest) ← hexUnit rest
    if second < 0xDC00 || 0xDFFF < second then .error (.before .loneSurrogate rest)
    else .ok (Char.ofNat (0x10000 + (first - 0xD800) * 0x400 + (second - 0xDC00)), rest)

/-- Reads an escape from behind the backslash. -/
def escape : Reader Char
  | [] => .error (.atEnd .endInText)
  | c :: rest =>
    match c with
    | '\x22' => .ok ('\x22', rest)
    | '\\' => .ok ('\\', rest)
    | '/' => .ok ('/', rest)
    | 'b' => .ok ('\x08', rest)
    | 'f' => .ok ('\x0c', rest)
    | 'n' => .ok ('\n', rest)
    | 'r' => .ok ('\r', rest)
    | 't' => .ok ('\t', rest)
    | 'u' => escapedUnit rest
    | _ => .error (.behindNext .badEscape (c :: rest))

/-- Reads the characters of a text up to its closing quote; `read` holds the last one first. -/
def characters (read : List Char) : (fuel : Nat) → Reader String
  | 0, _ => .error (.atEnd .endInText)
  | _, [] => .error (.atEnd .endInText)
  | fuel + 1, c :: rest =>
    if c = '\x22' then .ok (String.ofList read.reverse, rest)
    else if c = '\\' then
      match escape rest with
      | .error failure => .error failure
      | .ok (escaped, rest) => characters (escaped :: read) fuel rest
    else if c.toNat < 0x20 then .error (.behindNext .controlCharacter (c :: rest))
    else characters (c :: read) fuel rest

/-! ## Lists and objects -/

/-- Finds the start of the next item of a list or object, `none` at its closing bracket.  Between
items there is a comma, and none may stand in front of the bracket. -/
def nextItem (closing : Char) (isFirst : Bool) (atEnd missingComma : Cause) :
    Reader (Option Unit) := fun text =>
  match skipSpace text with
  | [] => .error (.atEnd atEnd)
  | c :: rest =>
    if c = closing then .ok (none, rest)
    else if isFirst then .ok (some (), c :: rest)
    else if c = ',' then
      match skipSpace rest with
      | [] => .error (.atEnd .endInValue)
      | c :: rest =>
        if c = closing then .error (.behindNext .trailingComma (c :: rest))
        else .ok (some (), c :: rest)
    else .error (.behindNext missingComma (c :: rest))

/-- Reads the items of a list up to its closing bracket; `read` holds the last one first. -/
def items (item : Nat → Reader Value) (read : List Value) : (fuel : Nat) → Reader Value
  | 0, _ => .error (.atEnd .endInList)
  | fuel + 1, text =>
    match nextItem ']' read.isEmpty .endInList .missingListComma text with
    | .error failure => .error failure
    | .ok (none, rest) => .ok (.list read.reverse, rest)
    | .ok (some (), rest) =>
      match item fuel rest with
      | .error failure => .error failure
      | .ok (value, rest) => items item (value :: read) fuel rest

/-- Reads the name of a member and the colon behind it. -/
def memberName (fuel : Nat) : Reader String := fun text =>
  match text with
  | '\x22' :: rest => do
    let (name, rest) ← characters [] fuel rest
    match skipSpace rest with
    | [] => .error (.atEnd .endInObject)
    | ':' :: rest => .ok (name, rest)
    | rest => .error (.behindNext .missingColon rest)
  | _ => .error (.behindNext .nameNotText text)

/-- Reads the members of an object up to its closing bracket.  Of members with the same name the
last one stays. -/
def members (item : Nat → Reader Value) (isFirst : Bool) (read : Keyed String Value) :
    (fuel : Nat) → Reader Value
  | 0, _ => .error (.atEnd .endInObject)
  | fuel + 1, text =>
    match nextItem '\x7d' isFirst .endInObject .missingObjectComma text with
    | .error failure => .error failure
    | .ok (none, rest) => .ok (.object read, rest)
    | .ok (some (), rest) =>
      match memberName fuel rest with
      | .error failure => .error failure
      | .ok (name, rest) =>
        match item fuel rest with
        | .error failure => .error failure
        | .ok (value, rest) => members item false (read.put name value) fuel rest

/-- Reads a value, in which `depth` more brackets may be opened. -/
def value : (depth fuel : Nat) → Reader Value
  | depth, fuel, text =>
    match skipSpace text with
    | [] => .error (.atEnd .endInValue)
    | c :: rest =>
      if c = 'n' then word .null ['u', 'l', 'l'] rest
      else if c = 't' then word (.truth true) ['r', 'u', 'e'] rest
      else if c = 'f' then word (.truth false) ['a', 'l', 's', 'e'] rest
      else if c = '-' then (number true rest).map fun (read, rest) => (.number read, rest)
      else if c.isDigit then
        (number false (c :: rest)).map fun (read, rest) => (.number read, rest)
      else if c = '\x22' then
        (characters [] fuel rest).map fun (read, rest) => (.text read, rest)
      else if c = '[' then
        match depth with
        | 0 => .error (.behindNext .tooDeep (c :: rest))
        | depth + 1 => items (value depth) [] fuel rest
      else if c = '\x7b' then
        match depth with
        | 0 => .error (.behindNext .tooDeep (c :: rest))
        | depth + 1 => members (value depth) true [] fuel rest
      else .error (.behindNext .missingValue (c :: rest))

/-- The number of brackets that may be open at once. -/
def depthLimit : Nat := 127

/-- Reads a whole document from its characters. -/
def document (text : List Char) : Except Failure Value :=
  match value depthLimit (text.length + 1) text with
  | .error failure => .error failure
  | .ok (read, rest) =>
    match skipSpace rest with
    | [] => .ok read
    | rest => .error (.behindNext .trailingText rest)

/-- Why a text is not a JSON document, and where that shows. -/
structure SyntaxError where
  cause : Cause
  place : Place
  deriving Repr, DecidableEq

/-- The message for a text that is not a document. -/
def SyntaxError.message (error : SyntaxError) : String :=
  error.cause.describe ++ " at line " ++ Decimal.natText error.place.line ++ " column " ++
    Decimal.natText error.place.column

/-- Reads a JSON document. -/
def Value.ofText? (text : String) : Except SyntaxError Value :=
  let whole := text.toList
  (document whole).mapError fun failure => ⟨failure.cause, failure.locate whole⟩

end JunctionReplay.Json
