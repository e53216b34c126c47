/-
What happens while parsers are registered and run, and which of it is logged.
-/
import ValueLattice.DebugInfo.Error

namespace ValueLattice

inductive Event
  /-- A callback was called. -/
  | called (stage : Stage) (parser : String)
  /-- A callback ended in an error or a panic. -/
  | failed (stage : Stage) (parser message : String)
  /-- A parser that failed on a view was left out. -/
  | skipped (parser file : String)
  /-- A parser was refused because its name is taken. -/
  | refused (parser : String)
  deriving DecidableEq, Repr

inductive Level
  | warn
  | error
  deriving DecidableEq, Repr

def Level.text : Level → String
  | warn => "WARN"
  | error => "ERROR"

structure LogRecord where
  level : Level
  message : String
  fields : List (String × String)
  deriving DecidableEq, Repr

/-- The record that an event leaves in the log, if it leaves one. -/
def Event.record? : Event → Option LogRecord
  | called _ _ => none
  | failed stage parser message => some {
      level := .error
      message := "debug-info parser '" ++ parser ++ "' failed in " ++ stage.text ++ ": " ++ message
      fields := [("parser", parser), ("stage", stage.text)] }
  | skipped parser file => some {
      level := .warn
      message := "skipping failed debug-info parser"
      fields := [("parser", parser), ("view", file)] }
  | refused parser => some {
      level := .warn
      message := "debug-info parser is already registered"
      fields := [("parser", parser)] }

/-- The log that a journal leaves. -/
def logOf (journal : List Event) : List LogRecord :=
  journal.filterMap Event.record?

end ValueLattice
