import AutomatonKit.CommandLine.Identifier
import AutomatonKit.CommandLine.Program
import Std.Time.DateTime.Timestamp

/-!
# Entry point

Runs the program in the surroundings of the process: the file system, the standard streams, the
clock and a source of randomness.
-/

namespace AutomatonKit.CommandLine

/-- What an action answers, or nothing if it fails. -/
def attempt {α : Type} (action : IO α) : IO (Option α) :=
  try
    let x ← action
    return some x
  catch _ => return none

/-- The surroundings of the process. -/
def processHost : Host IO where
  contentOf path := attempt (IO.FS.readBinFile path)
  standardInput := attempt (do (← IO.getStdin).readBinToEnd)
  replaceFile path bytes := return (← attempt (IO.FS.writeBinFile path bytes)).isSome
  freshId := return identifier (← IO.getRandomBytes 16).toList
  now := do
    let time ← Std.Time.Timestamp.now
    let nanoseconds := time.toNanosecondsSinceUnixEpoch.val
    return .ofUnixTime (nanoseconds / 1000000000) (nanoseconds % 1000000000).toNat

end AutomatonKit.CommandLine

/-- Runs the program on the arguments of the process. -/
def main (arguments : List String) : IO UInt32 := do
  let outcome ← AutomatonKit.CommandLine.execute AutomatonKit.CommandLine.processHost arguments
  IO.print outcome.output
  if let some message := outcome.error then
    IO.eprintln ("Error: " ++ message)
  return UInt32.ofNat outcome.exitCode
