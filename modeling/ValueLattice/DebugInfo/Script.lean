/-
What a parser does when it is called. A parser looks at a view and decides whether it applies, and
it runs a script that adds items to a session and may rent the list of functions of the view. Both
end in success, in an error, or in a panic.
-/
import ValueLattice.DebugInfo.Store
import ValueLattice.Engine

namespace ValueLattice

/-! ## Outcomes -/

/-- How a callback ends. -/
inductive Outcome (α : Type)
  | done (a : α)
  /-- An error, from its outermost context to its cause. -/
  | failed (chain : List String)
  /-- A panic, with its text if it has one. -/
  | panicked (text : Option String)

namespace Outcome

variable {α : Type}

/-- The result of a callback, or the message that is reported. -/
def result : Outcome α → Except String α
  | done a => .ok a
  | failed chain => .error (Text.joined ": " chain)
  | panicked (some text) => .error text
  | panicked none => .error "panic with a non-string payload"

end Outcome

/-! ## Views -/

/-- What a parser can see of a view without renting anything. -/
structure ViewInfo where
  file : String
  kind : String
  arch : Option Architecture

namespace ViewInfo

def text (v : ViewInfo) : String :=
  "<BinaryView: '" ++ v.file ++ "', type: '" ++ v.kind ++ "'>"

end ViewInfo

/-- Conditions on a view; an absent condition always holds. -/
structure ViewFilter where
  kind : Option String := none
  file : Option String := none
  arch : Option String := none

def ViewFilter.accepts (c : ViewFilter) (v : ViewInfo) : Bool :=
  c.kind.all (v.kind == ·) && c.file.all (v.file == ·) &&
    c.arch.all fun name => v.arch.map Architecture.name == some name

/-! ## Scripts -/

/-- A course of action that depends on what it is answered. -/
inductive Script
  | finish (outcome : Outcome Unit)
  | add (item : NewItem) (next : Except DebugInfoError Bool → Script)
  /-- Rents the functions of the view. -/
  | rentFunctions (next : List FunctionHandle → Script)
  /-- Returns the array rented last. -/
  | giveBack (next : Script)

namespace Script

def done : Script :=
  .finish (.done ())

/-- Adds an item; an error ends the script with that error. -/
def require (item : NewItem) (next : Script) : Script :=
  .add item fun answer =>
    match answer with
    | .ok _ => next
    | .error e => .finish (.failed [e.message])

/-- Adds a nameless function for every function of the view. -/
def requireViewFunctions (next : Script) : Script :=
  .rentFunctions fun fs =>
    fs.foldr (fun f k => require (.function { address := f.start }) k) (.giveBack next)

end Script

/-- A debug-info parser: a name and its two callbacks. -/
structure Parser where
  name : String
  isValid : ViewInfo → Outcome Bool
  script : ViewInfo → Script

def Parser.text (p : Parser) : String :=
  "<debug-info parser: '" ++ p.name ++ "'>"

end ValueLattice
