/-
Where a variable lives, and the 64-bit identifier that packs a location: the source in the two
highest bits, thirty bits of the index, and the low half of the storage.
-/

namespace ValueLattice

inductive Source
  | stack
  | register
  | flag
  deriving DecidableEq, Repr

namespace Source

def bits : Source → UInt64
  | stack => 0
  | register => 1
  | flag => 2

/-- The source with the given two bits; the unused pattern reads as a flag. -/
def ofBits (b : UInt64) : Source :=
  if b &&& 3 = 0 then stack else if b &&& 3 = 1 then register else flag

def text : Source → String
  | stack => "StackVariableSourceType"
  | register => "RegisterVariableSourceType"
  | flag => "FlagVariableSourceType"

end Source

/-- The place of a variable in its function: a stack offset, a register or a flag. -/
structure Location where
  source : Source
  index : UInt32
  storage : Int64
  deriving DecidableEq, Repr

namespace Location

/-- The bits of an index that an identifier holds. -/
def indexMask : UInt64 := 0x3fffffff

/-- The identifier of a location. -/
def identifier (l : Location) : UInt64 :=
  (l.source.bits <<< 62) ||| ((l.index.toUInt64 &&& indexMask) <<< 32) |||
    l.storage.toInt32.toUInt32.toUInt64

/-- The location that an identifier stands for; the storage is signed. -/
def ofIdentifier (identifier : UInt64) : Location where
  source := .ofBits (identifier >>> 62)
  index := ((identifier >>> 32) &&& indexMask).toUInt32
  storage := identifier.toUInt32.toInt32.toInt64

end Location

end ValueLattice
