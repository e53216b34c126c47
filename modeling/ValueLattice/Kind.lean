/-
The twelve kinds of value and their state tags on the wire.
-/

namespace ValueLattice

/-- What is known about a value; the order is that of the state tags. -/
inductive Kind
  | undetermined
  | entryValue
  | constant
  | constantPointer
  | stackOffset
  | returnAddress
  | importedAddress
  | signedRange
  | unsignedRange
  | lookupTable
  | inSet
  | notInSet
  deriving DecidableEq, Repr

namespace Kind

/-- Every kind, in the order of the tags. -/
def all : List Kind :=
  [undetermined, entryValue, constant, constantPointer, stackOffset, returnAddress,
    importedAddress, signedRange, unsignedRange, lookupTable, inSet, notInSet]

/-- The state tag of a kind. -/
def tag : Kind → UInt32
  | undetermined => 0
  | entryValue => 1
  | constant => 2
  | constantPointer => 3
  | stackOffset => 4
  | returnAddress => 5
  | importedAddress => 6
  | signedRange => 7
  | unsignedRange => 8
  | lookupTable => 9
  | inSet => 10
  | notInSet => 11

/-- The kind with a given state tag. -/
def ofTag? (state : UInt32) : Option Kind :=
  all.find? fun k => k.tag = state

theorem ofTag?_tag (k : Kind) : ofTag? k.tag = some k := by
  cases k <;> rfl

theorem tag_of_ofTag? {state : UInt32} {k : Kind} (h : ofTag? state = some k) : k.tag = state := by
  simpa using List.find?_some h

/-- How a kind is named to the user. -/
def text : Kind → String
  | undetermined => "undetermined"
  | entryValue => "entry value"
  | constant => "constant"
  | constantPointer => "constant pointer"
  | stackOffset => "stack frame offset"
  | returnAddress => "return address"
  | importedAddress => "imported address"
  | signedRange => "signed range"
  | unsignedRange => "unsigned range"
  | lookupTable => "lookup table"
  | inSet => "in set of values"
  | notInSet => "not in set of values"

end Kind

end ValueLattice
