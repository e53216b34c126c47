/-
Register values: one inferred fact with a confidence. Confidence takes no part in equality. The
facts are the kinds of value set that carry no list, with the same wire format and the same texts.
-/
import ValueLattice.ValueSet.Format
import ValueLattice.ValueSet.Wire

namespace ValueLattice

/-- One fact about a register or a variable. -/
inductive Fact
  | undetermined
  | entry (reg : Register)
  | constant (value : Int64)
  | constantPointer (value : Int64)
  | stackOffset (offset : Int64)
  | returnAddress
  | imported (value : Int64)
  deriving DecidableEq, Repr

namespace Fact

def kind : Fact → Kind
  | undetermined => .undetermined
  | entry _ => .entryValue
  | constant _ => .constant
  | constantPointer _ => .constantPointer
  | stackOffset _ => .stackOffset
  | returnAddress => .returnAddress
  | imported _ => .importedAddress

def text : Fact → String
  | undetermined => "<undetermined>"
  | entry r => "<entry " ++ r.text ++ ">"
  | constant v => "<const " ++ Numeral.signedHex v.toInt ++ ">"
  | constantPointer v => "<const ptr " ++ Numeral.signedHex v.toInt ++ ">"
  | stackOffset v => "<stack frame offset " ++ Numeral.signedHex v.toInt ++ ">"
  | returnAddress => "<return address>"
  | imported v => "<imported address from entry " ++ Numeral.signedHex v.toInt ++ ">"

instance : Hashed Fact where
  feed f :=
    match f with
    | undetermined => [.variant 0]
    | entry r => .variant 1 :: feed r
    | constant v => [.variant 2, .signed v]
    | constantPointer v => [.variant 3, .signed v]
    | stackOffset v => [.variant 4, .signed v]
    | returnAddress => [.variant 5]
    | imported v => [.variant 6, .signed v]

end Fact

/-- The highest confidence. -/
def maxConfidence : UInt8 := 255

structure RegisterValue where
  fact : Fact
  confidence : UInt8 := maxConfidence

/-- A register value on the wire. -/
structure WireRegisterValue where
  state : UInt32
  value : Int64
  deriving DecidableEq, Repr

namespace RegisterValue

def kind (v : RegisterValue) : Kind :=
  v.fact.kind

/-- Whether the value is known to be one number. -/
def isConstant (v : RegisterValue) : Bool :=
  match v.fact with
  | .constant _ => true
  | .constantPointer _ => true
  | _ => false

def value? (v : RegisterValue) : Option Int64 :=
  match v.fact with
  | .constant n => some n
  | .constantPointer n => some n
  | .imported n => some n
  | _ => none

def offset? (v : RegisterValue) : Option Int64 :=
  match v.fact with
  | .stackOffset n => some n
  | _ => none

def reg? (v : RegisterValue) : Option Register :=
  match v.fact with
  | .entry r => some r
  | _ => none

/-- Whether a register value states that the value is exactly `n`. -/
def isValue (v : RegisterValue) (n : Int64) : Bool :=
  v.value? == some n

instance : BEq RegisterValue where
  beq a b := a.fact == b.fact

instance : Hashed RegisterValue where
  feed v := feed v.fact

def text (v : RegisterValue) : String :=
  v.fact.text

/-- The text of a register value in a layout. -/
def format (layout : Layout) (v : RegisterValue) : String :=
  if layout.showConfidence then
    v.text ++ " (confidence " ++ Numeral.decimalNat v.confidence.toNat ++ ")"
  else v.text

/-- The register value that a wire value stands for; kinds with a list are refused. -/
def decode (raw : WireRegisterValue) (arch : Option Architecture) (confidence : UInt8) :
    Except ValueError RegisterValue :=
  match Kind.ofTag? raw.state with
  | none => .error (.unknownState raw.state)
  | some kind =>
    match kind with
    | .undetermined => .ok ⟨.undetermined, confidence⟩
    | .entryValue => (Register.ofWire raw.value arch).map fun r => ⟨.entry r, confidence⟩
    | .constant => .ok ⟨.constant raw.value, confidence⟩
    | .constantPointer => .ok ⟨.constantPointer raw.value, confidence⟩
    | .stackOffset => .ok ⟨.stackOffset raw.value, confidence⟩
    | .returnAddress => .ok ⟨.returnAddress, confidence⟩
    | .importedAddress => .ok ⟨.imported raw.value, confidence⟩
    | other => .error (.notARegisterValue other)

/-- The wire value of a register value. -/
def encode (v : RegisterValue) (arch : Option Architecture) :
    Except ValueError WireRegisterValue :=
  match v.fact with
  | .undetermined => .ok ⟨v.kind.tag, 0⟩
  | .returnAddress => .ok ⟨v.kind.tag, 0⟩
  | .entry r => (r.toIndex arch).map fun index => ⟨v.kind.tag, ValueSet.registerWord index⟩
  | .constant n => .ok ⟨v.kind.tag, n⟩
  | .constantPointer n => .ok ⟨v.kind.tag, n⟩
  | .stackOffset n => .ok ⟨v.kind.tag, n⟩
  | .imported n => .ok ⟨v.kind.tag, n⟩

/-- Whether writing and reading back gives the same fact, if the value can be written. -/
def roundTrips (v : RegisterValue) (arch : Option Architecture) : Option (Except ValueError Bool) :=
  match v.encode arch with
  | .error _ => none
  | .ok raw => some ((decode raw arch v.confidence).map fun back => back == v)

end RegisterValue

end ValueLattice
