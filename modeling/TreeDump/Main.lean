import TreeDump.Command.Run

namespace TreeDump.Main

def deviceError : IO.Error → DeviceError
  | .resourceExhausted .. => .noSpaceLeft
  | error => ⟨.other, toString error⟩

def report (outcome : Command.Outcome) : IO UInt32 := do
  let diagnostics ← IO.getStderr
  for line in outcome.diagnostics do
    diagnostics.putStrLn line
  return outcome.exitCode.toUInt32

end TreeDump.Main

open TreeDump in
def main (arguments : List String) : IO UInt32 := do
  let filter ← IO.getEnv "RUST_LOG"
  let outcome := Command.run arguments filter .unlimited
  let output ← IO.getStdout
  try
    output.write outcome.output
    output.flush
    Main.report outcome
  catch error =>
    Main.report (Command.run arguments filter (.failing (Main.deviceError error)))
