import SearchRetrieve.CommandLine.Run

/-!
# The command line

Reads the files that an invocation names, carries it out and prints what it gives. There is no
network here: every request fails.
-/
namespace SearchRetrieve.CommandLine

def readFile? (file : String) : IO (Option String) := do
  try return some (← IO.FS.readFile file)
  catch _ => return none

def readInput? (input : String) : IO (Option String) := do
  if input = standardInput then return some (← (← IO.getStdin).readToEnd)
  else readFile? input

def readSources (i : Invocation) : IO Sources := do
  let schema ←
    match i.schemaFile with
    | some file => readFile? file
    | none => pure none
  let document ←
    match i.command with
    | .expand input _ _ _ => readInput? input
    | _ => pure none
  return ⟨schema, document⟩

/-- What every request brings. -/
def noNetwork : Reply := .error (.transport "No network")

def carryOut (words : List String) : IO UInt32 := do
  match read words with
  | .error _ =>
    IO.eprintln "error: the arguments are not understood\n\nFor more information, try '--help'."
    return 2
  | .ok (.help text) =>
    IO.print text
    return 0
  | .ok (.invoke invocation) =>
    let sources ← readSources invocation
    let report := ((invocation.run sources).runWith fun _ => noNetwork)
    IO.print report.output
    if let some reason := report.failure then IO.eprintln ("Error: " ++ reason)
    return report.exitCode.toUInt32

end SearchRetrieve.CommandLine

def main (words : List String) : IO UInt32 := SearchRetrieve.CommandLine.carryOut words
