import Blitter.Replay

/-!
# The command line

Reads the files that are named, runs them and prints the log.
-/

/-- The text of a file, if there is such a file. -/
def readFile? (path : String) : IO (Option String) := do
  try
    return some (← IO.FS.readFile path)
  catch _ => return none

/-- The program: exits with zero if every request succeeded. -/
def main (args : List String) : IO UInt32 := do
  let texts ← args.mapM fun path => do return (path, ← readFile? path)
  let log ← IO.getEnv "RUST_LOG"
  let shown := Blitter.Replay.transcript (fun path => (texts.lookup path).join) log args
  for line in shown.lines do
    IO.println line
  if let some text := shown.errorText then
    IO.eprintln text
  return UInt32.ofNat shown.code
