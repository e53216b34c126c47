/-
What can go wrong with a value: reading it from the wire, building it, writing it, or asking it
for its members.
-/
import ValueLattice.Kind
import ValueLattice.Numeral

namespace ValueLattice

inductive ValueError
  | unknownState (state : UInt32)
  | notARegisterValue (kind : Kind)
  /-- The wire value announces `actual` entries and carries `expected`. -/
  | countMismatch (expected actual : Nat)
  | invalidStep
  | emptyRanges
  | invalidRegisterIndex (value : Int64)
  | unresolvedRegister (name : String)
  | missingArchitecture (name : String)
  | notComparable (kind : Kind)
  deriving DecidableEq, Repr

def ValueError.message : ValueError → String
  | unknownState state => "unknown register value state " ++ Numeral.decimalNat state.toNat
  | notARegisterValue kind => kind.text ++ " is not a register value state"
  | countMismatch expected actual =>
    "count " ++ Numeral.decimalNat actual ++ " does not match the " ++ Numeral.decimalNat expected
      ++ " entries present"
  | invalidStep => "range step must be positive"
  | emptyRanges => "a range value set requires at least one range"
  | invalidRegisterIndex value =>
    "register index " ++ Numeral.decimal value.toInt ++ " is out of range"
  | unresolvedRegister name => "register '" ++ name ++ "' is unknown to the architecture"
  | missingArchitecture name => "register '" ++ name ++ "' needs an architecture to be encoded"
  | notComparable kind => "membership is not comparable for " ++ kind.text ++ " values"

end ValueLattice
