/-
The command line of the value lattice explorer. The raw names of its demo parser are demangled by
the older scheme, which both of them follow.
-/
import ValueLattice.Mangling
import ValueLattice.Shell.Program

open ValueLattice

/-- Handles lines of the standard input until it ends or a line ends the run. -/
partial def readLoop (input : IO.FS.Stream) (session : ShellSession) : IO UInt32 := do
  let line ← input.getLine
  if line.isEmpty then
    Program.farewell.forM IO.println
    return 0
  let turn := Program.turn session line
  turn.output.forM IO.println
  turn.errors.forM IO.eprintln
  match turn.code with
  | some code => return code
  | none => readLoop input turn.session

def main (args : List String) : IO UInt32 := do
  match Program.start Mangling.legacyPath? args with
  | .over run =>
    run.output.forM IO.println
    run.errors.forM IO.eprintln
    return run.code
  | .reading session =>
    Program.banner.forM IO.println
    readLoop (← IO.getStdin) session
