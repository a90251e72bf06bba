import WireShape.Command.Run

/-! # Executing the command

What the process does for its arguments: the text on its two outputs, and its exit code. -/

namespace WireShape.Command

def versionText : String := "json-shape 0.1.0"

def usageText : String :=
  "Resolve the JSON shape of Java types from a type registry\n\n" ++
  "Usage: json-shape [OPTIONS] <COMMAND>\n\n" ++
  "Commands:\n" ++
  "  resolve <TYPES>... [--report]  Resolve the JSON shape of type expressions\n" ++
  "  describe <NAMES>...            Describe registered types and their properties\n" ++
  "  list                           List registered type names\n" ++
  "  help                           Print this help\n\n" ++
  "Options:\n" ++
  "  -r, --registry <REGISTRY>      Document to load over the built-in declarations\n" ++
  "      --no-builtins              Start from an empty registry\n" ++
  "      --max-depth <MAX_DEPTH>    Maximum resolution depth\n" ++
  "      --adapter-policy <POLICY>  side-effect-only or use-adapting-shape\n" ++
  "      --format <FORMAT>          json or text [default: text]\n" ++
  "      --log-level <LEVEL>        error, warn, info, debug or trace [default: warn]\n" ++
  "  -h, --help                     Print help\n" ++
  "  -V, --version                  Print version"

/-- What a process does. -/
structure Execution where
  exitCode : UInt32
  stdout : String := ""
  stderr : String := ""
deriving DecidableEq, Repr

/-- The line that logs an event. -/
def logLine (e : Event) : String :=
  (word e.level).toUpper ++ " " ++ e.message ++
    String.join (e.fields.map fun (name, value) => " " ++ name ++ "=" ++ value) ++ "\n"

/-- Whether events of level `l` are logged at `limit`. -/
def isLogged (limit l : Level) : Bool :=
  rank l ≤ rank limit
where
  rank : Level → Nat
    | .error => 0
    | .warn => 1
    | .info => 2
    | .debug => 3
    | .trace => 4

def failureText (f : Failure) : String :=
  f.message ++ "\n" ++ String.join (f.causes.map fun e => "  " ++ e.message ++ "\n")

def execute (readText : String → Option String) (words : List String) : Execution :=
  match Arguments.ofList words with
  | .error .help => { exitCode := 0, stdout := usageText ++ "\n" }
  | .error .version => { exitCode := 0, stdout := versionText ++ "\n" }
  | .error .invalid => { exitCode := 2, stderr := usageText ++ "\n" }
  | .ok a =>
    let done := run readText a
    let log := String.join ((done.events.filter fun e => isLogged a.logLevel e.level).map logLine)
    match done.result with
    | .ok output => { exitCode := 0, stdout := output ++ "\n", stderr := log }
    | .error f => { exitCode := 1, stderr := log ++ failureText f }

end WireShape.Command
