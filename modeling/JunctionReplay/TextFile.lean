/-!
# Text files

Payloads and settings are texts in files.  What is found under the path of a file need not be a
file, and its bytes may not be text.
-/

namespace JunctionReplay

/-- What is found under a path. -/
inductive FileState where
  | missing
  /-- The path goes on behind a file as if that were a folder. -/
  | blocked
  /-- A name in the path is too long to be that of a file. -/
  | unnamable
  | folder
  | bytes (content : ByteArray)

/-- Whether there is anything under a path. -/
def FileState.isPresent : FileState → Bool
  | .folder | .bytes _ => true
  | .missing | .blocked | .unnamable => false

/-- Why the text of a file cannot be had. -/
inductive ReadFault where
  | missing
  | blocked
  | unnamable
  | folder
  | notText
  deriving DecidableEq, Repr

/-- The message for a file whose text cannot be had. -/
def ReadFault.message : ReadFault → String
  | .missing => "No such file or directory (os error 2)"
  | .blocked => "Not a directory (os error 20)"
  | .unnamable => "File name too long (os error 36)"
  | .folder => "Is a directory (os error 21)"
  | .notText => "stream did not contain valid UTF-8"

/-- The text of a file. -/
def readText : FileState → Except ReadFault String
  | .missing => .error .missing
  | .blocked => .error .blocked
  | .unnamable => .error .unnamable
  | .folder => .error .folder
  | .bytes content =>
    match String.fromUTF8? content with
    | some text => .ok text
    | none => .error .notText

end JunctionReplay
