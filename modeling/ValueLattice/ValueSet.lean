/-
Value sets: what is statically known about the values that a register or a variable can hold.
Equality of value sets compares facts: the offset of a range set and the flat mapping of a table
do not count.
-/
import ValueLattice.IntSet
import ValueLattice.LookupTable
import ValueLattice.Range
import ValueLattice.Register

namespace ValueLattice

inductive ValueSet
  /-- Nothing is known. -/
  | undetermined
  /-- The value of a register at the entry of the function. -/
  | entry (reg : Register)
  | constant (value : Int64)
  | constantPointer (value : Int64)
  | stackOffset (offset : Int64)
  | returnAddress
  | imported (value : Int64)
  | signedRanges (offset : Int64) (ranges : List (Range Int64))
  | unsignedRanges (offset : Int64) (ranges : List (Range UInt64))
  | table (table : LookupTable)
  | inSet (values : IntSet)
  | notInSet (values : IntSet)

namespace ValueSet

/-! ## Building -/

/-- A set of at least one signed range, without offset. -/
def ofSignedRanges (ranges : List (Range Int64)) : Except ValueError ValueSet :=
  if ranges.isEmpty then .error .emptyRanges else .ok (.signedRanges 0 ranges)

/-- A set of at least one unsigned range, without offset. -/
def ofUnsignedRanges (ranges : List (Range UInt64)) : Except ValueError ValueSet :=
  if ranges.isEmpty then .error .emptyRanges else .ok (.unsignedRanges 0 ranges)

/-! ## Observing -/

def kind : ValueSet → Kind
  | undetermined => .undetermined
  | entry _ => .entryValue
  | constant _ => .constant
  | constantPointer _ => .constantPointer
  | stackOffset _ => .stackOffset
  | returnAddress => .returnAddress
  | imported _ => .importedAddress
  | signedRanges _ _ => .signedRange
  | unsignedRanges _ _ => .unsignedRange
  | table _ => .lookupTable
  | inSet _ => .inSet
  | notInSet _ => .notInSet

/-- The number of ranges, entries or values, zero for the kinds without a list. -/
def count : ValueSet → Nat
  | signedRanges _ ranges => ranges.length
  | unsignedRanges _ ranges => ranges.length
  | table t => t.size
  | inSet values => values.size
  | notInSet values => values.size
  | _ => 0

def value? : ValueSet → Option Int64
  | constant v => some v
  | constantPointer v => some v
  | imported v => some v
  | _ => none

def offset? : ValueSet → Option Int64
  | stackOffset v => some v
  | signedRanges v _ => some v
  | unsignedRanges v _ => some v
  | _ => none

def reg? : ValueSet → Option Register
  | entry r => some r
  | _ => none

def signedRanges? : ValueSet → Option (List (Range Int64))
  | signedRanges _ ranges => some ranges
  | _ => none

def unsignedRanges? : ValueSet → Option (List (Range UInt64))
  | unsignedRanges _ ranges => some ranges
  | _ => none

def table? : ValueSet → Option LookupTable
  | table t => some t
  | _ => none

def values? : ValueSet → Option IntSet
  | inSet values => some values
  | notInSet values => some values
  | _ => none

/-! ## Equality and hashing -/

/-- Whether two value sets state the same fact. -/
def sameFact : ValueSet → ValueSet → Bool
  | undetermined, undetermined => true
  | returnAddress, returnAddress => true
  | entry a, entry b => a == b
  | constant a, constant b => a == b
  | constantPointer a, constantPointer b => a == b
  | imported a, imported b => a == b
  | stackOffset a, stackOffset b => a == b
  | signedRanges _ a, signedRanges _ b => a == b
  | unsignedRanges _ a, unsignedRanges _ b => a == b
  | table a, table b => a == b
  | inSet a, inSet b => a == b
  | notInSet a, notInSet b => a == b
  | _, _ => false

instance : BEq ValueSet where
  beq := sameFact

instance : Hashed ValueSet where
  feed s :=
    match s with
    | undetermined => [.variant 0]
    | entry r => .variant 1 :: feed r
    | constant v => [.variant 2, .signed v]
    | constantPointer v => [.variant 3, .signed v]
    | stackOffset v => [.variant 4, .signed v]
    | signedRanges _ ranges => .variant 5 :: feedList feed ranges
    | unsignedRanges _ ranges => .variant 6 :: feedList feed ranges
    | table t => .variant 7 :: feed t
    | inSet values => .variant 8 :: feed values
    | notInSet values => .variant 9 :: feed values
    | returnAddress => [.variant 10]
    | imported v => [.variant 11, .signed v]

/-- Whether a value set states that the value is exactly `n`. -/
def isValue (s : ValueSet) (n : Int64) : Bool :=
  s.value? == some n

end ValueSet

end ValueLattice
