import DateLayout.CommandLine

/-!
# The program

Prints the outcome of the command line.
-/

def main (args : List String) : IO UInt32 := do
  let outcome := DateLayout.CommandLine.run args
  IO.print outcome.out
  IO.eprint outcome.err
  return outcome.exitCode.toUInt32
