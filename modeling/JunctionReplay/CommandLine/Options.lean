import JunctionReplay.Decimal.Literal

/-!
# Options

What is given on the command line.  Options have a long name, and some of them one letter; a
value follows as the next argument, or directly behind the letter or an equals sign.  No option
may be given twice, and a value of its own may not start with a dash.

`Arguments.read` goes through the arguments one by one and knows of a request only that it can or
cannot be met.
-/

namespace JunctionReplay.CommandLine

/-- The options that take a value. -/
inductive ValueOption where
  | payload
  | compare
  | config
  | speed
  | duration
  deriving DecidableEq, Repr

/-- The options that take none. -/
inductive Flag where
  | fast
  | json
  | verbose
  deriving DecidableEq, Repr

/-- What a name on the command line stands for. -/
inductive OptionName where
  | withValue (option : ValueOption)
  | flag (flag : Flag)
  | help
  deriving DecidableEq, Repr

/-- The long names. -/
def longName? (name : String) : Option OptionName :=
  match name with
  | "payload" => some (.withValue .payload)
  | "compare" => some (.withValue .compare)
  | "config" => some (.withValue .config)
  | "speed" => some (.withValue .speed)
  | "duration" => some (.withValue .duration)
  | "fast" => some (.flag .fast)
  | "json" => some (.flag .json)
  | "verbose" => some (.flag .verbose)
  | "help" => some .help
  | _ => none

/-- The letters. -/
def letterName? (letter : Char) : Option OptionName :=
  match letter with
  | 'p' => some (.withValue .payload)
  | 'c' => some (.withValue .config)
  | 's' => some (.withValue .speed)
  | 'd' => some (.withValue .duration)
  | 'v' => some (.flag .verbose)
  | 'h' => some .help
  | _ => none

/-- The options that were given so far. -/
structure Given where
  values : List (ValueOption × String)
  flags : List Flag
  deriving DecidableEq, Repr

/-- Why a request cannot be met as it is. -/
inductive Refusal where
  /-- The arguments make no sense. -/
  | badArguments
  /-- Only the help was asked for. -/
  | helpWanted
  deriving DecidableEq, Repr

namespace Given

/-- No options at all. -/
def nothing : Given := ⟨[], []⟩

/-- The value that was given for an option. -/
def value? (given : Given) (option : ValueOption) : Option String :=
  given.values.lookup option

/-- Gives a value for an option. -/
def addValue (given : Given) (option : ValueOption) (value : String) : Except Refusal Given :=
  if (given.value? option).isSome then .error .badArguments
  else .ok { given with values := (option, value) :: given.values }

/-- Gives a flag. -/
def addFlag (given : Given) (flag : Flag) : Except Refusal Given :=
  if given.flags.contains flag then .error .badArguments
  else .ok { given with flags := flag :: given.flags }

end Given

/-- What has been read so far: an option may still wait for its value. -/
structure Reading where
  given : Given
  waiting : Option ValueOption
  deriving DecidableEq, Repr

/-- Reads an option with a value that is attached to it, if there is one. -/
def readNamed (given : Given) (name : Option OptionName) (attached : Option String) :
    Except Refusal Reading :=
  match name, attached with
  | some (.withValue option), some value =>
    (given.addValue option value).map fun given => ⟨given, none⟩
  | some (.withValue option), none => .ok ⟨given, some option⟩
  | some (.flag flag), none => (given.addFlag flag).map fun given => ⟨given, none⟩
  | some .help, none => .error .helpWanted
  | _, _ => .error .badArguments

/-- Reads an argument that starts with two dashes. -/
def readLong (given : Given) (characters : List Char) : Except Refusal Reading :=
  let name := String.ofList (characters.takeWhile (· ≠ '='))
  let attached :=
    match characters.dropWhile (· ≠ '=') with
    | [] => none
    | _ :: value => some (String.ofList value)
  readNamed given (longName? name) attached

/-- Reads letters that stand together behind one dash. -/
def readLetters (given : Given) : List Char → Except Refusal Reading
  | [] => .ok ⟨given, none⟩
  | letter :: rest =>
    match letterName? letter, rest with
    | some (.flag flag), _ => do readLetters (← given.addFlag flag) rest
    | some (.withValue option), '=' :: value =>
      readNamed given (some (.withValue option)) (some (String.ofList value))
    | some (.withValue option), _ :: _ =>
      readNamed given (some (.withValue option)) (some (String.ofList rest))
    | name, _ => readNamed given name none

/-- Reads one argument. -/
def readArgument (reading : Reading) (argument : String) : Except Refusal Reading :=
  match argument.toList, reading.waiting with
  | '-' :: '-' :: characters, none => readLong reading.given characters
  | '-' :: first :: rest, none =>
    if first = '-' then .error .badArguments else readLetters reading.given (first :: rest)
  | '-' :: _ :: _, some _ => .error .badArguments
  | _, some option =>
    (reading.given.addValue option argument).map fun given => ⟨given, none⟩
  | _, none => .error .badArguments

/-- Reads all arguments; two dashes alone may stand at their end. -/
def readArguments : Reading → List String → Except Refusal Given
  | reading, [] | reading, ["--"] =>
    if reading.waiting.isSome then .error .badArguments else .ok reading.given
  | reading, argument :: rest => do
    if argument = "--" then .error .badArguments
    else readArguments (← readArgument reading argument) rest

/-- What the program is asked to do. -/
structure Options where
  payload : String
  compare : Option String
  config : String
  speed : Option Float
  duration : Option Float
  fast : Bool
  json : Bool
  verbose : Bool
  deriving Repr

namespace Options

/-- The settings that are read unless others are given. -/
def standardConfig : String := "playback.toml"

/-- The number given for an option, if any is. -/
def number? (given : Given) (option : ValueOption) : Except Refusal (Option Float) :=
  match given.value? option with
  | none => .ok none
  | some text =>
    match Decimal.ofLiteral? text with
    | some value => .ok (some value)
    | none => .error .badArguments

/-- The request that options make. -/
def ofGiven (given : Given) : Except Refusal Options := do
  let speed ← number? given .speed
  let duration ← number? given .duration
  match given.value? .payload with
  | none => .error .badArguments
  | some payload =>
    .ok
      { payload := payload
        compare := given.value? .compare
        config := (given.value? .config).getD standardConfig
        speed := speed
        duration := duration
        fast := given.flags.contains .fast
        json := given.flags.contains .json
        verbose := given.flags.contains .verbose }

/-- The request that arguments make. -/
def ofArguments (arguments : List String) : Except Refusal Options := do
  ofGiven (← readArguments ⟨.nothing, none⟩ arguments)

end Options

/-- The help. -/
def helpText : String :=
  "\n".intercalate
    [ "Replays intersection simulation output and reports live playback metrics",
      "",
      "Usage: traffic-playback [OPTIONS] --payload <PAYLOAD>",
      "",
      "Options:",
      "  -p, --payload <PAYLOAD>    Simulation or optimization payload (JSON)",
      "      --compare <COMPARE>    Second payload to play side by side (e.g. the optimized run)",
      "  -c, --config <CONFIG>      Playback configuration file [default: playback.toml]",
      "  -s, --speed <SPEED>        Playback speed multiplier",
      "  -d, --duration <DURATION>  Real seconds to run; defaults to the time needed to play to " ++
        "the end",
      "      --fast                 Use fixed frame deltas and skip frame pacing",
      "      --json                 Print the final frame as JSON",
      "  -v, --verbose              Enable verbose logging for detailed playback progress",
      "  -h, --help                 Print help" ]

end JunctionReplay.CommandLine
