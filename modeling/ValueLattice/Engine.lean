/-
The functions of the analysis engine. The engine knows the names and types of variables by their
location, answers look-ups and counts them. A function is reached through handles; two handles are
the same when they lead to the same function, wherever that starts.
-/
import ValueLattice.Architecture
import ValueLattice.Heap
import ValueLattice.Location
import ValueLattice.Ty

namespace ValueLattice

/-- A handle to a function, with what never changes about it. -/
structure FunctionHandle where
  number : Nat
  start : UInt64
  arch : Option Architecture

namespace FunctionHandle

instance : BEq FunctionHandle where
  beq a b := a.number == b.number

instance : Hashed FunctionHandle where
  feed f := [.handle f.number]

/-- Functions are ordered by their start; of two at the same address the older comes first. -/
def order (a b : FunctionHandle) : Ordering :=
  (compare a.start b.start).then (compare a.number b.number)

/-- Whether two handles lead to different functions that start at the same address. -/
def twins (a b : FunctionHandle) : Bool :=
  a != b && a.start == b.start

def text (f : FunctionHandle) : String :=
  match f.arch with
  | some a => "<func: " ++ a.name ++ "@" ++ Numeral.hex f.start.toNat ++ ">"
  | none => "<func: " ++ Numeral.hex f.start.toNat ++ ">"

end FunctionHandle

/-- What the engine knows about a variable. -/
structure VariableInfo where
  name : Option String := none
  type : Option Ty := none

/-- What can change about a function. -/
structure FunctionState where
  known : Keyed Location VariableInfo := Keyed.empty
  lookups : Nat := 0

/-- The functions that are alive. -/
abbrev Engine := Heap FunctionState

namespace Engine

/-- A new function and the first handle to it. -/
def newFunction (e : Engine) (start : UInt64) (arch : Option Architecture) :
    FunctionHandle × Engine :=
  let (number, e) := e.alloc {}
  (⟨number, start, arch⟩, e)

/-- How often variables of a function have been looked up. -/
def lookups (e : Engine) (f : FunctionHandle) : Nat :=
  match e.get? f.number with
  | some s => s.lookups
  | none => 0

/-- What is known about the variable at a location; nothing is counted. -/
def info (e : Engine) (f : FunctionHandle) (l : Location) : VariableInfo :=
  ((e.get? f.number).bind fun s => s.known.get? l).getD {}

/-! ## Look-ups -/

/-- The engine with one look-up more counted for a function. -/
def countLookup (e : Engine) (f : FunctionHandle) : Engine :=
  e.modify f.number fun s => { s with lookups := s.lookups + 1 }

/-- The name of the variable at a location. -/
def variableName (e : Engine) (f : FunctionHandle) (l : Location) : Option String × Engine :=
  ((e.info f l).name, e.countLookup f)

/-- The type of the variable at a location. -/
def variableType (e : Engine) (f : FunctionHandle) (l : Location) : Option Ty × Engine :=
  ((e.info f l).type, e.countLookup f)

/-! ## Writes -/

/-- Replaces what is known about the variable at a location. -/
def writeInfo (e : Engine) (f : FunctionHandle) (l : Location)
    (change : VariableInfo → VariableInfo) : Engine :=
  e.modify f.number fun s =>
    { s with known := s.known.put l (change ((s.known.get? l).getD {})) }

/-- Defines a variable, and forgets what was known at its location. -/
def createVariable (e : Engine) (f : FunctionHandle) (l : Location) (name : String)
    (type : Option Ty) : Engine :=
  e.writeInfo f l fun _ => ⟨some name, type⟩

def setVariableName (e : Engine) (f : FunctionHandle) (l : Location) (name : String) : Engine :=
  e.writeInfo f l fun known => { known with name := some name }

def setVariableType (e : Engine) (f : FunctionHandle) (l : Location) (type : Ty) : Engine :=
  e.writeInfo f l fun known => { known with type := some type }

/-! ## Handles -/

/-- One more handle to each of the functions. -/
def takeHandles (e : Engine) (fs : List FunctionHandle) : Engine :=
  e.retainAll (fs.map FunctionHandle.number)

/-- Gives back one handle to each of the functions. -/
def giveHandles (e : Engine) (fs : List FunctionHandle) : Engine :=
  e.releaseAll (fs.map FunctionHandle.number)

end Engine

end ValueLattice
