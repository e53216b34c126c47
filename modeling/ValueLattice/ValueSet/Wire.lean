/-
Value sets on the wire. A wire value is a state tag with fields of which each state uses some;
`encode` writes a value set and leaves the other fields zero, `decode` accepts exactly the wire
values whose state is known, whose count matches their list, whose steps are positive and whose
register number fits.
-/
import ValueLattice.ValueSet

namespace ValueLattice

/-- A range as the bit patterns of its bounds and its step. -/
structure WireRange where
  start : UInt64
  stop : UInt64
  step : UInt64
  deriving DecidableEq, Repr

structure WireValueSet where
  state : UInt32
  value : Int64
  ranges : List WireRange
  table : List TableEntry
  values : List Int64
  count : Nat
  deriving DecidableEq, Repr

/-- The wire value of a kind with no field set. -/
def WireValueSet.blank (kind : Kind) : WireValueSet :=
  ⟨kind.tag, 0, [], [], [], 0⟩

namespace ValueSet

/-! ## Reading -/

/-- Refuses a wire value that announces another number of entries than it carries. -/
def checkCount (count present : Nat) : Except ValueError Unit :=
  if count = present then .ok () else .error (.countMismatch present count)

/-- The value set that a wire value of a given kind stands for. -/
def decodeAs (kind : Kind) (raw : WireValueSet) (arch : Option Architecture) :
    Except ValueError ValueSet :=
  match kind with
  | .undetermined => .ok .undetermined
  | .entryValue => (Register.ofWire raw.value arch).map .entry
  | .constant => .ok (.constant raw.value)
  | .constantPointer => .ok (.constantPointer raw.value)
  | .stackOffset => .ok (.stackOffset raw.value)
  | .returnAddress => .ok .returnAddress
  | .importedAddress => .ok (.imported raw.value)
  | .signedRange => do
    checkCount raw.count raw.ranges.length
    let ranges ← Range.buildAll
      (raw.ranges.map fun r => (r.start.toInt64, r.stop.toInt64, r.step))
    return .signedRanges raw.value ranges
  | .unsignedRange => do
    checkCount raw.count raw.ranges.length
    let ranges ← Range.buildAll (raw.ranges.map fun r => (r.start, r.stop, r.step))
    return .unsignedRanges raw.value ranges
  | .lookupTable => do
    checkCount raw.count raw.table.length
    return .table (LookupTable.ofEntries raw.table)
  | .inSet => do
    checkCount raw.count raw.values.length
    return .inSet (IntSet.ofList raw.values)
  | .notInSet => do
    checkCount raw.count raw.values.length
    return .notInSet (IntSet.ofList raw.values)

/-- The value set that a wire value stands for; the architecture names the entry registers. -/
def decode (raw : WireValueSet) (arch : Option Architecture) : Except ValueError ValueSet :=
  match Kind.ofTag? raw.state with
  | none => .error (.unknownState raw.state)
  | some kind => decodeAs kind raw arch

/-! ## Writing -/

/-- The bit pattern of a register number as a signed word. -/
def registerWord (index : UInt32) : Int64 :=
  index.toUInt64.toInt64

/-- The wire value of a value set; only an entry value by name can be refused. -/
def encode (s : ValueSet) (arch : Option Architecture) : Except ValueError WireValueSet :=
  let raw := WireValueSet.blank s.kind
  match s with
  | undetermined => .ok raw
  | returnAddress => .ok raw
  | entry r => (r.toIndex arch).map fun index => { raw with value := registerWord index }
  | constant v => .ok { raw with value := v }
  | constantPointer v => .ok { raw with value := v }
  | imported v => .ok { raw with value := v }
  | stackOffset v => .ok { raw with value := v }
  | signedRanges v ranges =>
    .ok { raw with
      value := v
      ranges := ranges.map fun r => ⟨r.start.toUInt64, r.stop.toUInt64, r.step⟩
      count := ranges.length }
  | unsignedRanges v ranges =>
    .ok { raw with
      value := v
      ranges := ranges.map fun r => ⟨r.start, r.stop, r.step⟩
      count := ranges.length }
  | table t => .ok { raw with table := t.entries, count := t.entries.length }
  | inSet values => .ok { raw with values := values.members, count := values.size }
  | notInSet values => .ok { raw with values := values.members, count := values.size }

/-- Whether writing and reading back gives the same fact, if the value set can be written. -/
def roundTrips (s : ValueSet) (arch : Option Architecture) : Option (Except ValueError Bool) :=
  match s.encode arch with
  | .error _ => none
  | .ok raw => some ((decode raw arch).map fun back => back == s)

end ValueSet

end ValueLattice
