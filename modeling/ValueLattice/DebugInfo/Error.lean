/-
What can go wrong with debug information and its parsers.
-/
import ValueLattice.Numeral
import ValueLattice.Ty

namespace ValueLattice

/-- Why an operation does not take its input. -/
inductive Unsupported
  | parameterWithoutStorage (name : String) (type : Ty)
  | dataWithoutStorage (address : UInt64) (type : Ty)
  | alreadyRegistered (parser : String)
  deriving DecidableEq, Repr

def Unsupported.message : Unsupported → String
  | parameterWithoutStorage name type =>
    "parameter '" ++ name ++ "' of type " ++ type.text ++ " has no storage"
  | dataWithoutStorage address type =>
    "data variable at " ++ Numeral.hex address.toNat ++ " cannot have type " ++ type.text
  | alreadyRegistered parser => "debug-info parser '" ++ parser ++ "' is already registered"

inductive DebugInfoError
  | parserNotFound (name : String)
  | notSupported (reason : Unsupported)
  deriving DecidableEq, Repr

def DebugInfoError.message : DebugInfoError → String
  | parserNotFound name => "'" ++ name ++ "' is not a valid debug-info parser"
  | notSupported reason => "operation not supported: " ++ reason.message

/-- The two callbacks of a parser. -/
inductive Stage
  | isValid
  | parseInfo
  deriving DecidableEq, Repr

def Stage.text : Stage → String
  | isValid => "is_valid"
  | parseInfo => "parse_info"

end ValueLattice
