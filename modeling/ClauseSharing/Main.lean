import ClauseSharing.CommandLine.Run
import ClauseSharing.Redis.Client

/-! # The program

Runs its command line over a server that lives as long as the program does, prints what there is to
print, and ends with the status of the run. -/

/-- Runs the command line. -/
def main (words : List String) : IO UInt32 := do
  let (outcome, _) := ClauseSharing.CommandLine.run words ({} : ClauseSharing.Redis.Link)
  IO.print outcome.text
  return UInt32.ofNat outcome.status
