import MessageRelay.Program

/-!
# The command

Runs the program with the arguments and the environment of the process. The library has no way of
its own to reach a node, so here none is reached: the arguments and the configuration are checked,
and whatever needs a node fails.
-/

open MessageRelay

/-- The environment of the process. -/
def readEnvironment : IO Environment := do
  let bytes ← IO.FS.readBinFile "/proc/self/environ"
  let entries := (Text.splitAt (· == 0) bytes.toList).filter (!·.isEmpty)
  return entries.map fun entry =>
    let (name, value) := entry.span (· != 61)
    ((Bytes.text? name).getD "", value.drop 1)

/-- What stands at a path. -/
def readContent (path : String) : IO FileContent := do
  try
    return .bytes (← IO.FS.readBinFile path).toList
  catch
    | .noFileOrDirectory .. => return .absent
    | _ => return .unreadable

/-- Runs the program and exits with its status. -/
def main (args : List String) : IO UInt32 := do
  let env ← readEnvironment
  let path := ((CommandLine.parse args).toOption.map (·.envFile)).getD ".env"
  let content ← readContent path
  let result := Program.run .unreachable (fun _ => content) env args
  IO.print result.output
  match result.failure with
  | some failure => IO.eprintln failure.message
  | none => pure ()
  return (result.status.getD 1).toUInt32
