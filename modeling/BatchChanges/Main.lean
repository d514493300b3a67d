import BatchChanges.Cli

/-! # The program, run -/

namespace BatchChanges

def readPath (path : String) : IO (Option FileContent) := do
  try
    return some (.ofBytes (← IO.FS.readBinFile path))
  catch
    | .noFileOrDirectory .. => return none
    | _ => return some .directory

end BatchChanges

/-- Runs the program on its arguments and on the files below the home directory. -/
def main (arguments : List String) : IO UInt32 := do
  let home := (← IO.getEnv "HOME").getD ""
  match BatchChanges.Cli.Command.parse? arguments with
  | none =>
    IO.eprintln "Usage: batches <COMMAND>"
    return 2
  | some command =>
    let found ← match command.file? home with
      | some path => BatchChanges.readPath path
      | none => pure none
    let outcome := command.run home found
    IO.print outcome.stdout
    if let some error := outcome.error then IO.eprintln ("Error: " ++ error)
    if let some cause := outcome.cause then IO.eprintln ("\nCaused by:\n    " ++ cause)
    return UInt32.ofNat outcome.exit
