/-
The written form of value commands: the word that names a kind of value, and the arguments after
it. Numbers are written in hexadecimal, and the step of a range is always written.
`Expressible` are the values that have a written form which reads as a command.
-/
import ValueLattice.Shell.Command

namespace ValueLattice.ValueSpec

/-! ## Arguments -/

/-- The word for a signed number. -/
def numberWord (v : Int64) : String :=
  Numeral.signedHex v.toInt

/-- The word for a range with signed bounds. -/
def signedRangeWord (row : Int64 × Int64 × UInt64) : String :=
  numberWord row.1 ++ ":" ++ numberWord row.2.1 ++ ":" ++ Numeral.hex row.2.2.toNat

/-- The word for a range with unsigned bounds. -/
def unsignedRangeWord (row : UInt64 × UInt64 × UInt64) : String :=
  Numeral.hex row.1.toNat ++ ":" ++ Numeral.hex row.2.1.toNat ++ ":" ++ Numeral.hex row.2.2.toNat

/-- The word for the entry of a table. -/
def entryWord (e : TableEntry) : String :=
  Text.joined "," (e.inputs.map numberWord) ++ "=" ++ numberWord e.output

/-! ## Commands -/

/-- The command word of a kind of value. -/
def keyword : ValueSpec → String
  | undetermined => "undetermined"
  | entry _ => "entry"
  | constant _ => "const"
  | constantPointer _ => "ptr"
  | stackOffset _ => "stack"
  | returnAddress => "retaddr"
  | imported _ => "import"
  | signedRanges _ => "srange"
  | unsignedRanges _ => "urange"
  | table _ => "table"
  | inSet _ => "in"
  | notInSet _ => "notin"

/-- The arguments of a value command. -/
def arguments : ValueSpec → List String
  | undetermined => []
  | entry r => [r.text]
  | constant v => [numberWord v]
  | constantPointer v => [numberWord v]
  | stackOffset v => [numberWord v]
  | returnAddress => []
  | imported v => [numberWord v]
  | signedRanges rows => rows.map signedRangeWord
  | unsignedRanges rows => rows.map unsignedRangeWord
  | table entries => entries.map entryWord
  | inSet values => values.map numberWord
  | notInSet values => values.map numberWord

/-- The words of a value command. -/
def words (spec : ValueSpec) : List String :=
  spec.keyword :: spec.arguments

/-! ## What can be written -/

/-- A register that is read back from its own text: a number, or a word that is no number of a
register. -/
def NamesItself : Register → Prop
  | .index _ => True
  | .name n =>
    n.toList ≠ [] ∧ (∀ c ∈ n.toList, Text.isBlank c = false) ∧
      ∀ v, Numeral.readUnsigned n = .ok v → registerLimit ≤ v.toNat

/-- The values whose written form is a value command. -/
def Expressible : ValueSpec → Prop
  | entry r => NamesItself r
  | signedRanges rows => rows ≠ []
  | unsignedRanges rows => rows ≠ []
  | table entries => entries ≠ [] ∧ ∀ e ∈ entries, e.inputs ≠ []
  | _ => True

end ValueLattice.ValueSpec
