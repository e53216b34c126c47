/-
Variables of a function. A variable has an identity, its identifier together with the function it
belongs to, and two memo cells for its name and its type. A cell is filled by the first read,
which asks the engine once, or from outside; an engine that changes later is not asked again.
Reading passes the engine along, because a look-up is counted there.
-/
import ValueLattice.Engine

namespace ValueLattice

structure Variable where
  function : Option FunctionHandle
  location : Location
  /-- An identifier given from outside. -/
  givenIdentifier : Option UInt64 := none
  /-- The name, once it is known; the inner option tells whether there is one. -/
  nameCell : Option (Option String) := none
  /-- The type, once it is known; the inner option tells whether there is one. -/
  typeCell : Option (Option Ty) := none

namespace Variable

/-! ## Building -/

/-- A variable at a location, with nothing known yet. -/
def ofLocation (function : Option FunctionHandle) (location : Location) : Variable :=
  { function, location }

/-- A variable from an identifier of the engine, which it keeps. -/
def ofIdentifier (function : Option FunctionHandle) (identifier : UInt64) : Variable :=
  { function, location := .ofIdentifier identifier, givenIdentifier := some identifier }

/-- Gives a name in advance; a name cell that is filled stays as it is. -/
def withName (v : Variable) (name : String) : Variable :=
  { v with nameCell := v.nameCell.or (some (some name)) }

/-- Gives a type in advance; a type cell that is filled stays as it is. -/
def withType (v : Variable) (type : Ty) : Variable :=
  { v with typeCell := v.typeCell.or (some (some type)) }

/-- Overwrites the name. -/
def setName (v : Variable) (name : String) : Variable :=
  { v with nameCell := some (some name) }

/-- Overwrites the type. -/
def setType (v : Variable) (type : Ty) : Variable :=
  { v with typeCell := some (some type) }

/-- Overwrites the identifier. -/
def setIdentifier (v : Variable) (identifier : UInt64) : Variable :=
  { v with givenIdentifier := some identifier }

/-! ## Identity -/

def identifier (v : Variable) : UInt64 :=
  v.givenIdentifier.getD v.location.identifier

/-- The handles that a variable owns. -/
def handles (v : Variable) : List FunctionHandle :=
  v.function.toList

/-- Variables are equal when their identifiers and their functions are. -/
instance : BEq Variable where
  beq a b := a.identifier == b.identifier && a.function == b.function

instance : Hashed Variable where
  feed v := .word64 v.identifier :: feedOption feed v.function

/-! ## Reading -/

/-- The name, asked of the engine if it is not known yet. -/
def readName (v : Variable) (e : Engine) : Option String × Variable × Engine :=
  match v.nameCell with
  | some name => (name, v, e)
  | none =>
    match v.function with
    | none => (none, { v with nameCell := some none }, e)
    | some f =>
      let (name, e) := e.variableName f v.location
      (name, { v with nameCell := some name }, e)

/-- The type, asked of the engine if it is not known yet. -/
def readType (v : Variable) (e : Engine) : Option Ty × Variable × Engine :=
  match v.typeCell with
  | some type => (type, v, e)
  | none =>
    match v.function with
    | none => (none, { v with typeCell := some none }, e)
    | some f =>
      let (type, e) := e.variableType f v.location
      (type, { v with typeCell := some type }, e)

/-- How a variable is shown when its name is known or known to be missing. -/
def shown (v : Variable) (name : Option String) : String :=
  name.getD ("var_" ++ Numeral.hexDigits v.identifier.toNat)

/-- The text of a variable, which needs its name. -/
def readText (v : Variable) (e : Engine) : String × Variable × Engine :=
  let (name, v, e) := v.readName e
  (v.shown name, v, e)

/-- The texts of several variables, read from the first to the last. -/
def readTexts : List Variable → Engine → List String × List Variable × Engine
  | [], e => ([], [], e)
  | v :: vs, e =>
    let (text, v, e) := v.readText e
    let (texts, vs, e) := readTexts vs e
    (text :: texts, v :: vs, e)

end Variable

end ValueLattice
