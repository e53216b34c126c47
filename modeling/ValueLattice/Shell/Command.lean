/-
The command language. A line is split into words at blanks; the first word names the command and
the others are its arguments. A line that is no command reads as nothing.
-/
import ValueLattice.Numeral.Reading
import ValueLattice.ValueSet

namespace ValueLattice

/-! ## Values -/

/-- A value set as it is written in a command. -/
inductive ValueSpec
  | undetermined
  | entry (reg : Register)
  | constant (value : Int64)
  | constantPointer (value : Int64)
  | stackOffset (offset : Int64)
  | returnAddress
  | imported (value : Int64)
  | signedRanges (ranges : List (Int64 × Int64 × UInt64))
  | unsignedRanges (ranges : List (UInt64 × UInt64 × UInt64))
  | table (entries : List TableEntry)
  | inSet (values : List Int64)
  | notInSet (values : List Int64)
  deriving DecidableEq, Repr

/-- The value set that is specified; a range with step zero is refused. -/
def ValueSpec.build : ValueSpec → Except ValueError ValueSet
  | undetermined => .ok .undetermined
  | entry r => .ok (.entry r)
  | constant v => .ok (.constant v)
  | constantPointer v => .ok (.constantPointer v)
  | stackOffset v => .ok (.stackOffset v)
  | returnAddress => .ok .returnAddress
  | imported v => .ok (.imported v)
  | signedRanges rows => do ValueSet.ofSignedRanges (← Range.buildAll rows)
  | unsignedRanges rows => do ValueSet.ofUnsignedRanges (← Range.buildAll rows)
  | table entries => .ok (.table (LookupTable.ofEntries entries))
  | inSet values => .ok (.inSet (IntSet.ofList values))
  | notInSet values => .ok (.notInSet (IntSet.ofList values))

/-! ## Commands -/

inductive Command
  /-- Replaces the current value. -/
  | value (spec : ValueSpec)
  /-- Asks whether a number is a member of the current value. -/
  | contains (x : Int)
  /-- Shows the current value on the wire. -/
  | raw
  /-- Shows the architecture, or sets it. -/
  | arch (name : Option String)
  | parsers
  /-- Runs the debug-info parsers on a view of a kind. -/
  | parse (kind : String)
  | help
  | quit
  deriving DecidableEq, Repr

namespace Command

/-- A word as a signed number. -/
def integer? (word : List Char) : Option Int64 :=
  (Numeral.readIntegerChars word).toOption

/-- The number of a register, or else a register name. -/
def register (word : List Char) : Register :=
  match Numeral.readUnsignedChars word with
  | .ok n => if n.toNat < registerLimit then .index n.toUInt32 else .name (String.ofList word)
  | .error _ => .name (String.ofList word)

/-- Inputs separated by commas, an equality sign and the output. -/
def tableEntry? (word : List Char) : Option TableEntry := do
  let (inputs, output) ← Text.splitOnce '=' word
  let inputs ← (Text.splitWhere (· == ',') inputs).mapM integer?
  let output ← integer? output
  return ⟨inputs, output⟩

def signedRange? (word : List Char) : Option (Int64 × Int64 × UInt64) :=
  (Numeral.readRange Numeral.readIntegerChars word).toOption

def unsignedRange? (word : List Char) : Option (UInt64 × UInt64 × UInt64) :=
  (Numeral.readRange Numeral.readUnsignedChars word).toOption

/-- Applies `f` to the only argument. -/
def single {α : Type} (f : List Char → Option α) : List (List Char) → Option α
  | [word] => f word
  | _ => none

/-- Applies `f` to each of at least one argument. -/
def several {α : Type} (f : List Char → Option α) : List (List Char) → Option (List α)
  | [] => none
  | words => words.mapM f

/-- The value that a command word specifies with its arguments. -/
def spec? (word : String) (args : List (List Char)) : Option ValueSpec :=
  match word with
  | "undetermined" => some .undetermined
  | "undet" => some .undetermined
  | "entry" => single (fun w => some (.entry (register w))) args
  | "const" => (single integer? args).map .constant
  | "ptr" => (single integer? args).map .constantPointer
  | "stack" => (single integer? args).map .stackOffset
  | "retaddr" => some .returnAddress
  | "import" => (single integer? args).map .imported
  | "srange" => (several signedRange? args).map .signedRanges
  | "urange" => (several unsignedRange? args).map .unsignedRanges
  | "table" => (several tableEntry? args).map .table
  | "in" => (args.mapM integer?).map .inSet
  | "notin" => (args.mapM integer?).map .notInSet
  | _ => none

/-- A number that is asked for. -/
def operand? (word : List Char) : Option Int :=
  (Numeral.readOperandChars word).toOption

/-- The command of a command word with its arguments. -/
def ofWords? (word : String) (args : List (List Char)) : Option Command :=
  match word with
  | "contains" => (single operand? args).map .contains
  | "has" => (single operand? args).map .contains
  | "raw" => some .raw
  | "arch" => some (.arch (args.head?.map String.ofList))
  | "parsers" => some .parsers
  | "parse" => single (fun w => some (.parse (String.ofList w))) args
  | "help" => some .help
  | "h" => some .help
  | "?" => some .help
  | "quit" => some .quit
  | "q" => some .quit
  | "exit" => some .quit
  | _ => (spec? word args).map .value

/-- The command on a line. -/
def parse? (line : String) : Option Command :=
  match Text.words line.toList with
  | [] => none
  | word :: args => ofWords? (String.ofList word) args

end Command

end ValueLattice
