import WireShape.Command.Execution

/-! # The program

Reads the document named by the arguments, runs the command and prints what it gives. -/

namespace WireShape

/-- The text of the file at `path`, if it can be read. -/
def readDocument (path : String) : IO (Option String) := do
  try return some (← IO.FS.readFile path) catch _ => return none

/-- The path of the document that the words ask for. -/
def documentPath (words : List String) : Option String :=
  match Command.Arguments.ofList words with
  | .ok a => a.registry
  | .error _ => none

end WireShape

def main (words : List String) : IO UInt32 := do
  let path := WireShape.documentPath words
  let text ← match path with
    | some path => WireShape.readDocument path
    | none => pure none
  let execution := WireShape.Command.execute (fun p => if some p = path then text else none) words
  IO.print execution.stdout
  IO.eprint execution.stderr
  return execution.exitCode
