/-
The program around the shell: its arguments, its loop over lines of input, and its exit codes.
Options may stand before and after the name of the mode; once the first word of a command has been
read, everything after it belongs to the command. Words may begin with a hyphen, and where words
are to come, so may the value of an option. Backspaces in a line of input take back what precedes
them.
-/
import ValueLattice.Shell.Demo
import ValueLattice.Shell.Session
import ValueLattice.Text.Erasure

namespace ValueLattice.Program

/-! ## Arguments -/

/-- The options given so far. -/
structure Options where
  arch : Option String := none
  logLevel : Option String := none

/-- What the program is asked to do. -/
inductive Mode
  /-- Read commands until the end of the input. -/
  | loop
  /-- Carry out one command. -/
  | once (words : List String)

inductive Invocation
  | version
  /-- The arguments are not understood. -/
  | misuse
  | run (arch : Option String) (mode : Mode)

/-- The name and the value in an argument of the form `name=value`. -/
def attached? (arg : String) : Option (String × String) :=
  (Text.splitOnce '=' arg.toList).map fun p => (String.ofList p.1, String.ofList p.2)

/-- Whether an argument is the name of an option. -/
def isOptionName (arg : String) : Bool :=
  arg == "--arch" || arg == "--log-level"

/-- Whether an argument asks for help, which has no place among words. -/
def isHelp (arg : String) : Bool :=
  arg == "--help" || arg.startsWith "--help=" ||
    (arg.startsWith "-h" && (arg.toList.drop 1).all (· == 'h'))

/-- Whether an argument is read as an option where words are to come. -/
def isOption (arg : String) : Bool :=
  isHelp arg || isOptionName arg || ((attached? arg).map fun p => isOptionName p.1).getD false

/-- Whether an argument can be the value of an option; `words` says whether words are to come. -/
def isOptionValue (words : Bool) (arg : String) : Bool :=
  !(arg.startsWith "-") || arg == "-" || (words && arg != "--" && !isOption arg)

/-- Sets an option that is not set yet. -/
def Options.set? (o : Options) (name value : String) : Option Options :=
  match name with
  | "--arch" => if o.arch.isNone then some { o with arch := some value } else none
  | "--log-level" => if o.logLevel.isNone then some { o with logLevel := some value } else none
  | _ => none

/-- The options at the head of the arguments and what follows them; nothing if an option is
repeated or lacks its value. `words` says whether words are to come. -/
def readOptions (words : Bool) (o : Options) : List String → Option (Options × List String)
  | [] => some (o, [])
  | arg :: rest =>
    if isOptionName arg then
      match rest with
      | [] => none
      | value :: rest =>
        if isOptionValue words value then (o.set? arg value).bind fun o => readOptions words o rest
        else none
    else
      match attached? arg with
      | none => some (o, arg :: rest)
      | some (name, value) =>
        if isOptionName name then (o.set? name value).bind fun o => readOptions words o rest
        else some (o, arg :: rest)

/-- What is asked for with the arguments after the name of a mode; `arch` is the architecture given
before it. -/
def afterMode (arch : Option String) (once : Bool) (args : List String) : Invocation :=
  match readOptions once {} args with
  | none => .misuse
  | some (o, args) =>
    let arch := o.arch.or arch
    match once, args with
    | false, [] => .run arch .loop
    | false, ["--"] => .run arch .loop
    | false, _ => .misuse
    | true, [] => .misuse
    | true, ["--"] => .misuse
    | true, "--" :: words => .run arch (.once words)
    | true, word :: words => if isHelp word then .misuse else .run arch (.once (word :: words))

/-- Whether an argument asks for the version; what follows the short form in the argument does not
count. -/
def isVersion (arg : String) : Bool :=
  arg == "--version" || arg.startsWith "-V"

/-- What the arguments ask for. -/
def invocation (args : List String) : Invocation :=
  match readOptions false {} args with
  | none => .misuse
  | some (o, args) =>
    match args with
    | [] => .run o.arch .loop
    | ["--"] => .run o.arch .loop
    | "repl" :: rest => afterMode o.arch false rest
    | "eval" :: rest => afterMode o.arch true rest
    | arg :: _ => if isVersion arg then .version else .misuse

/-! ## The loop -/

/-- What handling a line prints, the exit code if the run ends with the line, and the session after
it. -/
structure Turn where
  output : List String
  errors : List String
  code : Option UInt32
  session : ShellSession

def banner : List String :=
  ["Atai - possible value lattice explorer",
    "Type 'help' for available commands, 'quit' to exit.",
    ""]

/-- What is printed at the end of the input. -/
def farewell : List String :=
  ["CTRL-D"]

/-- The report of an error. -/
def errorText (message : String) : String :=
  "Error: " ++ message

/-- The exit code of a run that breaks off at a line it cannot put together. -/
def brokenOff : UInt32 := 101

/-- Handles a line of the loop with its erasures carried out; blanks around it do not count, and an
empty line does nothing. -/
def turn (s : ShellSession) (input : String) : Turn :=
  match Text.erased? input.toList with
  | none => ⟨[], [], some brokenOff, s⟩
  | some cs =>
    let line := String.ofList (Text.trim cs)
    if line.isEmpty then ⟨[], [], none, s⟩
    else
      match s.handle line with
      | (.unknown, s) =>
        ⟨["Unknown command: " ++ line, "Type 'help' for available commands."], [], none, s⟩
      | (.done output _, s) => ⟨output, [], none, s⟩
      | (.failed e, s) => ⟨[], [errorText e.message], none, s⟩
      | (.quit output, s) => ⟨output, [], some 0, s⟩

/-! ## Runs -/

/-- What a run of the program leaves behind. -/
structure Run where
  code : UInt32
  output : List String
  errors : List String

/-- Handles the lines of the input up to the end or a line that ends the run. -/
def loop (s : ShellSession) : List String → Run
  | [] => ⟨0, farewell, []⟩
  | input :: rest =>
    let t := turn s input
    match t.code with
    | some code => ⟨code, t.output, t.errors⟩
    | none =>
      let r := loop t.session rest
      { r with output := t.output ++ r.output, errors := t.errors ++ r.errors }

/-- Carries out the command that the words make up. -/
def once (s : ShellSession) (words : List String) : Run :=
  let line := Text.joined " " words
  match s.handle line with
  | (.unknown, _) => ⟨1, [], [errorText ("Unknown command: " ++ line)]⟩
  | (.done output _, _) => ⟨0, output, []⟩
  | (.failed e, _) => ⟨1, [], [errorText e.message]⟩
  | (.quit output, _) => ⟨0, output, []⟩

/-- How a run begins: it is over at once, or it goes on with the lines of the input. -/
inductive Start
  | over (r : Run)
  | reading (s : ShellSession)

/-- The start of a run; raw names are demangled in the given way. -/
def start (demangle? : String → Option String) (args : List String) : Start :=
  let bench := Demo.bench demangle?
  match invocation args with
  | .version => .over ⟨0, ["atai 0.1.0"], []⟩
  | .misuse => .over ⟨2, [], []⟩
  | .run none .loop => .reading { bench }
  | .run none (.once words) => .over (once { bench } words)
  | .run (some name) mode =>
    match Machine.ofName? name with
    | none => .over ⟨1, [], [errorText (ShellError.unknownArchitecture name).message]⟩
    | some m =>
      match mode with
      | .loop => .reading { machine := some m, bench }
      | .once words => .over (once { machine := some m, bench } words)

/-- The lines of a text; a carriage return at the end of a line does not belong to it, and an end
of line at the end of the text starts no further line. -/
def linesOf (text : String) : List String :=
  let parts := Text.splitWhere (· == '\n') text.toList
  let parts := if parts.getLast? = some [] then parts.dropLast else parts
  parts.map fun cs =>
    String.ofList (if cs.getLast? = some '\r' then cs.dropLast else cs)

/-- The run of the program with the given arguments on an input. -/
def run (demangle? : String → Option String) (args : List String) (input : String) : Run :=
  match start demangle? args with
  | .over r => r
  | .reading s =>
    let r := loop s (linesOf input)
    { r with output := banner ++ r.output }

/-- The lines of the error output that begin with the report of an error. -/
def Run.errorLines (r : Run) : List String :=
  (r.errors.flatMap linesOf).filter fun line => line.startsWith "Error: "

end ValueLattice.Program
