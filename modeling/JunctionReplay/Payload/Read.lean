import JunctionReplay.Json.Document
import JunctionReplay.Payload.Assembly
import JunctionReplay.TextFile

/-!
# Reading payloads

A payload is a JSON document.  It either wraps the outcome of a simulation as its member
`output`, with the reported figures as its member `results`, or is itself the outcome.  Reported
figures are read first, so that their faults win over those of the outcome.
-/

namespace JunctionReplay

/-- Why there is no store. -/
inductive PayloadError where
  | unreadable (fault : ReadFault)
  | malformedText (error : Json.SyntaxError)
  | malformedShape (error : ShapeError)
  /-- The loader went away without a result. -/
  | abandoned
  deriving Repr, DecidableEq

/-- The message for a missing store. -/
def PayloadError.message : PayloadError → String
  | .unreadable fault => "failed to read payload: " ++ fault.message
  | .malformedText error => "malformed payload JSON: " ++ error.message
  | .malformedShape error => "malformed payload JSON: " ++ error.message Decimal.compact
  | .abandoned => "payload loader went away before delivering a result"

namespace Payload

open Json (Value)

/-- The reported figures of a document; null stands for none. -/
def resultsOf (document : Value) : Except ShapeError (Option (Results Float)) :=
  match document.member? "results" with
  | none | some .null => .ok none
  | some value => (decodeResults value).map some

/-- The outcome in a document; null stands for one of which nothing is known. -/
def outputOf (document : Value) : Except ShapeError OutputRecord :=
  match (document.member? "output").getD document with
  | .null => .ok .empty
  | value => OutputRecord.decode value

/-- Reads the records of a document. -/
def recordsOf (document : Value) : Except ShapeError (OutputRecord × Option (Results Float)) := do
  let results ← resultsOf document
  let output ← outputOf document
  .ok (output, results)

/-- Reads the records of a text. -/
def recordsOfText (text : String) :
    Except PayloadError (OutputRecord × Option (Results Float)) :=
  match Value.ofText? text with
  | .error error => .error (.malformedText error)
  | .ok document => (recordsOf document).mapError .malformedShape

/-- The store of a document, or what is wrong with the document. -/
def storeOf (document : Value) (directions : Directions) (timing : CycleTiming Float) :
    Except Fault (Except ShapeError (Store Float)) :=
  match recordsOf document with
  | .error error => .ok (.error error)
  | .ok (output, results) => (assemble output results directions timing).map .ok

/-- The store of a text, or what is wrong with the text. -/
def storeOfText (text : String) (directions : Directions) (timing : CycleTiming Float) :
    Except Fault (Except PayloadError (Store Float)) :=
  match Value.ofText? text with
  | .error error => .ok (.error (.malformedText error))
  | .ok document =>
    (storeOf document directions timing).map fun store => store.mapError .malformedShape

/-- The store of a file, or what is wrong with the file. -/
def storeOfFile (file : FileState) (directions : Directions) (timing : CycleTiming Float) :
    Except Fault (Except PayloadError (Store Float)) :=
  match readText file with
  | .error fault => .ok (.error (.unreadable fault))
  | .ok text => storeOfText text directions timing

/-- What was put right in the text of a payload. -/
def notesOfText (text : String) (timing : CycleTiming Float) : List Log.Line :=
  match recordsOfText text with
  | .error _ => []
  | .ok (output, _) => assemblyNotes output timing

end Payload

end JunctionReplay
