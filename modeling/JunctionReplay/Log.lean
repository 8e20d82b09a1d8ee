/-!
# Log lines

What the program tells of its work, line by line, each with a level.
-/

namespace JunctionReplay.Log

/-- How much a line matters. -/
inductive Level where
  | error
  | warn
  | info
  | debug
  deriving DecidableEq, Repr

/-- The name of a level. -/
def Level.name : Level → String
  | .error => "ERROR"
  | .warn => "WARN"
  | .info => "INFO"
  | .debug => "DEBUG"

/-- One line of the log. -/
structure Line where
  level : Level
  text : String
  deriving DecidableEq, Repr

/-- A line that says what is going on. -/
def info (text : String) : Line := ⟨.info, text⟩

/-- A line about something that was put right. -/
def warn (text : String) : Line := ⟨.warn, text⟩

/-- A line about a failure. -/
def error (text : String) : Line := ⟨.error, text⟩

/-- A line for whoever wants to know all. -/
def debug (text : String) : Line := ⟨.debug, text⟩

/-- The text of a line as it is written; where it breaks, it goes on indented. -/
def Line.written (line : Line) : String := "\n    ".intercalate (line.text.splitOn "\n")

/-- Whether a line is shown: only a verbose log shows the lowest level. -/
def Line.isShown (verbose : Bool) (line : Line) : Bool :=
  verbose || line.level != .debug

end JunctionReplay.Log
