/-
**The program.**

Reads the arguments, runs the built-in tables and prints what they give.
-/

import LibmAudit.CommandLine.Session

namespace LibmAudit.CommandLine

/-- How the program is used. -/
def usage : String :=
  "usage: suite.py [-h] [--precision PRECISION] [--backend BACKEND] [--round ROUND]\n" ++
    "                [--max-ulps MAX_ULPS] [--flush-subnormals] [--every] [--quiet] [fns ...]\n"

/-- Whether the machine offers a fused multiplication to the native library. -/
def offersFused : Bool := false

/-- Prints an answer and gives its exit code. -/
def printAnswer (answer : Answer) : IO UInt32 := do
  IO.eprint answer.errors
  IO.print answer.output
  return answer.exitCode.toUInt32

/-- Runs the program with settings, or tells how it is used. -/
def runSettings (settings : Settings) : IO UInt32 := do
  if settings.help then
    IO.print usage
    return 0
  match ((perform settings).on startingStack).1 with
  | .ok answer => printAnswer answer
  | .error fault =>
    IO.eprintln fault.message
    return 1

end LibmAudit.CommandLine

open LibmAudit.CommandLine

/-- The program. -/
def main (arguments : List String) : IO UInt32 := do
  match Settings.ofArguments arguments offersFused with
  | .ok settings => runSettings settings
  | .error misuse =>
    IO.eprint usage
    IO.eprintln (refusalLine misuse)
    return 2
