import RecordQuery.Command.Invocation

/-!
# The program

The outer layer: it reads the schema file and standard input if the invocation needs them, and
prints the outcome.
-/

open RecordQuery.Command

/-- The contents of a file, unless it cannot be read. -/
def fileContents (path : String) : IO (Option String) := do
  try
    return some (← IO.FS.readFile path)
  catch _ =>
    return none

/-- The whole of standard input. -/
def standardInput : IO String := do
  (← IO.getStdin).readToEnd

/-- Runs the invocation that the arguments make. -/
def main (args : List String) : IO UInt32 := do
  let invocation := Invocation.ofArguments args
  let contents ← match invocation.schemaPath? with
    | some path => fileContents path
    | none => pure none
  let stdin ← if invocation.readsInput then standardInput else pure ""
  let outcome := invocation.run contents stdin
  IO.print outcome.stdout
  IO.eprint outcome.stderr
  return outcome.exitCode
