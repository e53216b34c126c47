/-
Places in code and data: addresses with an architecture, indirect branches between them, address
ranges, and constants in instructions.
-/
import ValueLattice.Architecture
import ValueLattice.Hashing
import ValueLattice.Numeral
import ValueLattice.Order

namespace ValueLattice

/-- An address with the architecture of its code. -/
structure Site where
  arch : Option Architecture
  address : UInt64

namespace Site

/-- The name of the architecture, a question mark if there is none. -/
def archName (s : Site) : String :=
  match s.arch with
  | some a => a.name
  | none => "?"

instance : BEq Site where
  beq a b := a.archName == b.archName && a.address == b.address

def text (s : Site) : String :=
  s.archName ++ ":" ++ Numeral.hex s.address.toNat

end Site

/-- An indirect branch. -/
structure Branch where
  source : Site
  target : Site
  automatic : Bool

namespace Branch

instance : BEq Branch where
  beq a b := a.source == b.source && a.target == b.target && a.automatic == b.automatic

def text (b : Branch) : String :=
  "<branch " ++ b.source.text ++ " -> " ++ b.target.text ++ ">"

end Branch

/-- The addresses from `start` up to, and without, `stop`. -/
structure AddressRange where
  start : UInt64
  stop : UInt64
  deriving DecidableEq, Repr

namespace AddressRange

/-- The number of addresses in the range. -/
def size (r : AddressRange) : UInt64 :=
  if r.start ≤ r.stop then r.stop - r.start else 0

def contains (r : AddressRange) (address : UInt64) : Bool :=
  decide (r.start ≤ address) && decide (address < r.stop)

instance : Hashed AddressRange where
  feed r := [.word64 r.start, .word64 r.stop]

/-- Ranges are ordered by their start, then by their end. -/
def order (a b : AddressRange) : Ordering :=
  (compare a.start b.start).then (compare a.stop b.stop)

/-- The ranges in ascending order. -/
def sort (rs : List AddressRange) : List AddressRange :=
  sortBy order rs

def text (r : AddressRange) : String :=
  "<" ++ Numeral.hex r.start.toNat ++ "-" ++ Numeral.hex r.stop.toNat ++ ">"

end AddressRange

/-- A constant in an instruction. -/
structure ConstantReference where
  value : Int64
  size : UInt64
  pointer : Bool
  intermediate : Bool
  deriving DecidableEq, Repr

namespace ConstantReference

instance : Hashed ConstantReference where
  feed r := [.signed r.value, .word64 r.size, .flag r.pointer, .flag r.intermediate]

/-- The bits of the constant, and its size if it has one and is no pointer. -/
def text (r : ConstantReference) : String :=
  if r.pointer then "<constant pointer " ++ Numeral.bitsHex r.value ++ ">"
  else if r.size = 0 then "<constant " ++ Numeral.bitsHex r.value ++ ">"
  else "<constant " ++ Numeral.bitsHex r.value ++ " size " ++ Numeral.decimalNat r.size.toNat ++ ">"

end ConstantReference

end ValueLattice
