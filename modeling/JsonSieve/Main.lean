/-
# The program

Reads the arguments and, when it has to, the standard input; prints what the run leaves behind.  The
decimals of its documents are rounded by parts (`Rounding.bestEffort`).
-/
import JsonSieve.Command.Arguments

open JsonSieve.Command

/-- Prints a report and gives its exit code. -/
def emit (r : Report) : IO UInt32 := do
  (← IO.getStdout).putStr r.output
  (← IO.getStderr).putStr r.complaint
  return UInt32.ofNat r.code

/-- Runs the command that the arguments ask for. -/
def main (args : List String) : IO UInt32 := do
  match readArguments .nothing args with
  | none => emit .misused
  | some (invocation, _) =>
    let input ← if invocation.readsInput then (← IO.getStdin).readToEnd else pure ""
    emit (invocation.report .bestEffort input)
