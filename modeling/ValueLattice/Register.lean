/-
References to registers: by name where an architecture gives one, else by number.
-/
import ValueLattice.Architecture
import ValueLattice.Hashing
import ValueLattice.Order
import ValueLattice.ValueError

namespace ValueLattice

/-- The numbers of registers are those below `2 ^ 32`. -/
def registerLimit : Nat := 0x100000000

inductive Register
  | name (name : String)
  | index (index : UInt32)
  deriving DecidableEq, Repr

namespace Register

/-- The name the architecture gives to a number, the number itself if it gives none. -/
def resolve (index : UInt32) (arch : Option Architecture) : Register :=
  match arch.bind fun a => a.registerName index with
  | some n => .name n
  | none => .index index

/-- The register that an entry value on the wire refers to. -/
def ofWire (value : Int64) (arch : Option Architecture) : Except ValueError Register :=
  if 0 ≤ value.toInt ∧ value.toInt < registerLimit then
    .ok (resolve (UInt32.ofNat value.toInt.toNat) arch)
  else .error (.invalidRegisterIndex value)

/-- The number of a register; a name needs an architecture that knows it. -/
def toIndex (r : Register) (arch : Option Architecture) : Except ValueError UInt32 :=
  match r with
  | .index i => .ok i
  | .name n =>
    match arch with
    | none => .error (.missingArchitecture n)
    | some a =>
      match a.registerIndex n with
      | some i => .ok i
      | none => .error (.unresolvedRegister n)

def name? : Register → Option String
  | .name n => some n
  | .index _ => none

def text : Register → String
  | .name n => n
  | .index i => Numeral.decimalNat i.toNat

/-- Names come before numbers; names are ordered by code points and numbers by size. -/
def order : Register → Register → Ordering
  | .name a, .name b => compare a b
  | .name _, .index _ => .lt
  | .index _, .name _ => .gt
  | .index a, .index b => compare a b

/-- The registers in ascending order. -/
def sort (rs : List Register) : List Register :=
  sortBy order rs

instance : Hashed Register where
  feed
    | .name n => [.variant 0, .text n]
    | .index i => [.variant 1, .word32 i]

end Register

end ValueLattice
