import XmlTypes.Command
/-!
# The program

Reads the files that the arguments name, runs the command, and reports what came of it.
-/

open XmlTypes

/-- The content of a file, none if it cannot be read. -/
def readContent (name : String) : IO (Option String) := do
  try
    return some (← IO.FS.readFile name)
  catch _ =>
    return none

/-- How the program is used. -/
def usage : String :=
  "build SCHEMA_SET [-c FILE] [--generate-namespaces] [-j] [-p]\norder SCHEMA_SET"

/-- Runs the program. -/
def main (args : List String) : IO UInt32 := do
  let request := Command.ofArguments args
  let names := match request with
    | .run command => command.files
    | _ => []
  let contents ← names.mapM fun name => return (name, ← readContent name)
  let outcome := request.outcome fun name => (contents.lookup name).join
  IO.print outcome.output
  match request with
  | .help => IO.println usage
  | .misuse => IO.eprintln usage
  | .run _ => pure ()
  if let some failure := outcome.failure then IO.eprintln ("Error: " ++ failure.message)
  return outcome.code.toUInt32
