/-
What debug information consists of: named types, functions with up to three names, and data
variables. A full name that is not given comes from the raw name, and a short name that is not
given is the last part of the full name. How raw names are demangled is a parameter.
-/
import ValueLattice.Text.Split
import ValueLattice.Ty

namespace ValueLattice

structure NamedType where
  name : String
  type : Ty
  deriving DecidableEq, Repr

/-- A variable at a fixed address. -/
structure DataVariable where
  address : UInt64
  type : Ty
  name : Option String
  autoDiscovered : Bool
  typeConfidence : UInt8
  deriving DecidableEq, Repr

namespace DataVariable

def text (v : DataVariable) : String :=
  let place := "<var " ++ Numeral.hex v.address.toNat ++ ": " ++ v.type.text
  match v.name with
  | some name => place ++ " " ++ name ++ ">"
  | none => place ++ ">"

end DataVariable

/-- A function as debug information describes it. -/
structure FunctionInfo where
  address : UInt64
  shortName : Option String := none
  fullName : Option String := none
  rawName : Option String := none
  returnType : Option Ty := none
  parameters : List (String × Ty) := []
  deriving DecidableEq, Repr

namespace FunctionInfo

instance : Hashed FunctionInfo where
  feed f :=
    let name := feedOption fun s : String => [HashWord.text s]
    .word64 f.address :: (name f.shortName ++ name f.fullName ++ name f.rawName ++
      feedOption feed f.returnType ++ feedList (fun p => .text p.1 :: feed p.2) f.parameters)

/-! ## Building -/

def withShortName (f : FunctionInfo) (name : String) : FunctionInfo :=
  { f with shortName := some name }

/-- Gives the full name, and with it the short name if that is missing. -/
def withFullName (f : FunctionInfo) (name : String) : FunctionInfo :=
  { f with shortName := f.shortName.or (some (Text.lastSegment name)), fullName := some name }

/-- The path of a raw name, or the raw name itself if it does not demangle. -/
def pathOf (demangle? : String → Option String) (rawName : String) : String :=
  (demangle? rawName).getD rawName

/-- Gives the raw name, and with it the full name if that is missing. -/
def withRawName (f : FunctionInfo) (demangle? : String → Option String) (name : String) :
    FunctionInfo :=
  let f := match f.fullName with
    | some _ => f
    | none => f.withFullName (pathOf demangle? name)
  { f with rawName := some name }

def withReturnType (f : FunctionInfo) (type : Ty) : FunctionInfo :=
  { f with returnType := some type }

def withParameter (f : FunctionInfo) (name : String) (type : Ty) : FunctionInfo :=
  { f with parameters := f.parameters ++ [(name, type)] }

def text (f : FunctionInfo) : String :=
  "<debug-info function: " ++ f.shortName.getD "?" ++ "@" ++ Numeral.hex f.address.toNat ++ ">"

end FunctionInfo

/-- Something to be added to debug information. -/
inductive NewItem
  | type (name : String) (type : Ty)
  | function (info : FunctionInfo)
  | data (address : UInt64) (type : Ty) (name : Option String)

end ValueLattice
