import SplitTest.CommandLine

/-!
# The program

Reads the file that the command line names, and prints the report on it.
-/

namespace SplitTest

/-- The bytes of a file, none if it cannot be read. -/
def readBytes (path : String) : IO (Option ByteArray) := do
  try
    return some (← IO.FS.readBinFile path)
  catch _ =>
    return none

end SplitTest

open SplitTest

/-- Print the report that the command line asks for, and what went wrong with the
dataset on the error stream. -/
def main (args : List String) : IO UInt32 := do
  let invocation := Invocation.parse args
  let bytes ← match invocation.path? with
    | some path => readBytes path
    | none => pure none
  if let some path := invocation.path? then
    if let .error fault := loadDataset path bytes then
      IO.eprintln fault.message
  let outcome := invocation.run bytes
  if outcome.exit = 2 then
    IO.eprint Invocation.usage
  IO.print outcome.stdout
  return outcome.exit.toUInt32
