/-
The shell. A session has a current value, an architecture and a bench with the registered parsers; a
command line changes the first two or shows something. A line that is not understood or that fails
changes nothing.
-/
import ValueLattice.DebugInfo.Bench
import ValueLattice.Shell.Command
import ValueLattice.ValueSet.Format
import ValueLattice.ValueSet.Membership
import ValueLattice.ValueSet.Wire

namespace ValueLattice

structure ShellSession where
  current : ValueSet := .undetermined
  machine : Option Machine := none
  bench : Bench := {}

/-- Why a command failed. -/
inductive ShellError
  | value (e : ValueError)
  | unknownArchitecture (name : String)
  deriving DecidableEq, Repr

def ShellError.message : ShellError → String
  | value e => e.message
  | unknownArchitecture name => "Unknown architecture '" ++ name ++ "'"

/-- How a line ends. -/
inductive LineResult
  /-- The line is no command. -/
  | unknown
  /-- The command was carried out and printed these lines. -/
  | done (output : List String) (log : List LogRecord)
  | failed (e : ShellError)
  /-- The session ends after these lines. -/
  | quit (output : List String)

namespace ShellSession

def arch (s : ShellSession) : Option Architecture :=
  s.machine.map Machine.architecture

/-! ## Value commands -/

/-- The value set of a specification after a passage over the wire. -/
def built (s : ShellSession) (spec : ValueSpec) : Except ValueError ValueSet := do
  let value ← spec.build
  let raw ← value.encode s.arch
  ValueSet.decode raw s.arch

/-! ## What is shown -/

/-- The text of the current value. -/
def currentText (s : ShellSession) : String :=
  s.current.format .standard

/-- Whether a number is a member of the current value. -/
def membershipText (s : ShellSession) (x : Int) : String :=
  match s.current.contains x with
  | .ok found =>
    s.currentText ++ " contains " ++ Numeral.signedHex x ++ ": " ++
      (if found then "true" else "false")
  | .error e => e.message

/-- Signed words in decimal, as a list. -/
def decimalList (vs : List Int64) : String :=
  Text.bracketed (vs.map fun v => Numeral.decimal v.toInt)

/-- The line of a state, with the kind that it stands for. -/
def stateLine (state : UInt32) (kind : Kind) : String :=
  "state: " ++ Numeral.decimalNat state.toNat ++ " (" ++ kind.text ++ ")"

/-- The line of a range, its bounds with all their digits. -/
def rangeLine (r : WireRange) : String :=
  "  range: " ++ Numeral.hexWide r.start.toNat ++ " " ++ Numeral.hexWide r.stop.toNat ++
    " step " ++ Numeral.hex r.step.toNat

/-- The line of a table entry. -/
def entryLine (e : TableEntry) : String :=
  "  entry: " ++ decimalList e.inputs ++ " -> " ++ Numeral.bitsHex e.output

/-- The line of the values of a set, if there are any. -/
def valueLines (vs : List Int64) : List String :=
  if vs.isEmpty then [] else ["  values: " ++ decimalList vs]

/-- The fields of a wire value. -/
def wireLines (raw : WireValueSet) (kind : Kind) : List String :=
  [stateLine raw.state kind,
    "value: " ++ Numeral.bitsHex raw.value,
    "count: " ++ Numeral.decimalNat raw.count] ++
    raw.ranges.map rangeLine ++ raw.table.map entryLine ++ valueLines raw.values

/-- The registered parsers. -/
def registered (s : ShellSession) : List Parser :=
  s.bench.host.registry.parsers.map ParserHandle.parser

/-- The names of the registered parsers, numbered. -/
def parserLines (ps : List Parser) : List String :=
  ("Debug-info parsers (" ++ Numeral.decimalNat ps.length ++ " registered):") ::
    ps.mapIdx fun i p => "  " ++ Numeral.decimalNat (i + 1) ++ ". " ++ p.name

/-- What a debug-info session holds. -/
def storeLines (store : Store) : List String :=
  let types := store.typesOf none
  let functions := store.functionsOf none
  let data := store.dataOf none
  ("Types (" ++ Numeral.decimalNat types.length ++ "):") ::
    types.map (fun t => "  " ++ t.name ++ ": " ++ t.type.text) ++
    ("Functions (" ++ Numeral.decimalNat functions.length ++ "):") ::
    functions.map (fun f => "  " ++ f.text ++ " (" ++ f.fullName.getD "?" ++ ")") ++
    ("Data variables (" ++ Numeral.decimalNat data.length ++ "):") ::
    data.map fun v => "  " ++ v.text

/-- The debug-info session that results from running the registered parsers on a view of some kind,
and what happened. -/
def parseView (s : ShellSession) (kind : String) : Option DebugSession × List Event :=
  let (_, _, b) := s.bench.step (.newView "demo" ⟨"demo", kind, s.arch⟩)
  let (answer, events, _) := b.step (.parseAll "demo" none none)
  match answer with
  | .session d => (some d, events)
  | _ => (none, events)

def helpLines : List String :=
  ["Available commands:",
    "",
    "  help                 - Show this help message",
    "  quit/exit/q          - Exit",
    "",
    "Value commands (replace the current value):",
    "  undetermined         - Nothing is known",
    "  const <n>            - Constant",
    "  ptr <n>              - Constant pointer",
    "  stack <n>            - Stack frame offset",
    "  entry <reg|n>        - Register value at function entry (name or raw index)",
    "  retaddr              - Return address",
    "  import <n>           - Imported address",
    "  srange <a:b[:s]>...  - Signed ranges",
    "  urange <a:b[:s]>...  - Unsigned ranges",
    "  table <x,y=z>...     - Lookup table",
    "  in <n>...            - In set of values",
    "  notin <n>...         - Not in set of values",
    "",
    "Inspection commands:",
    "  contains <n>         - Test membership in the current value",
    "  raw                  - Show the engine encoding of the current value",
    "  arch [name]          - Show or set the register naming architecture",
    "",
    "Debug-info commands:",
    "  parsers              - List registered debug-info parsers",
    "  parse <view type>    - Run applicable parsers on a demo view (ELF, PE)",
    "",
    "Examples:",
    "  urange 0:5 7:10",
    "  contains 8",
    "  srange -0x10:0:4",
    "  table 1,2=5 3=6",
    "  parse ELF"]

/-! ## Lines -/

/-- Carries out a command. -/
def carryOut (s : ShellSession) : Command → LineResult × ShellSession
  | .value spec =>
    match s.built spec with
    | .ok value => (.done [value.format .standard] [], { s with current := value })
    | .error e => (.failed (.value e), s)
  | .contains x => (.done [s.membershipText x] [], s)
  | .raw =>
    match s.current.encode s.arch with
    | .ok raw => (.done (wireLines raw s.current.kind) [], s)
    | .error e => (.failed (.value e), s)
  | .arch none =>
    match s.machine with
    | some m => (.done ["Architecture: " ++ m.name] [], s)
    | none => (.done ["Architecture: none (entry registers stay numeric)"] [], s)
  | .arch (some name) =>
    match Machine.ofName? name with
    | some m => (.done ["Architecture set to " ++ m.name] [], { s with machine := some m })
    | none => (.failed (.unknownArchitecture name), s)
  | .parsers => (.done (parserLines s.registered) [], s)
  | .parse kind =>
    let (session, events) := s.parseView kind
    match session with
    | some d => (.done (storeLines d.store) (logOf events), s)
    | none => (.done [] (logOf events), s)
  | .help => (.done helpLines [], s)
  | .quit => (.quit ["Goodbye!"], s)

/-- Handles one line of input. -/
def handle (s : ShellSession) (line : String) : LineResult × ShellSession :=
  match Command.parse? line with
  | none => (.unknown, s)
  | some command => s.carryOut command

end ShellSession

end ValueLattice
