/-
Registering parsers and running them. Applicability of all parsers is decided before the first of
them runs. A parser fills a store of its own, which is merged into the session only if the parser
succeeds; intermediate handles and arrays are given back however the callbacks end.
-/
import ValueLattice.DebugInfo.Host
import ValueLattice.DebugInfo.Journal

namespace ValueLattice.Host

/-! ## The registry -/

/-- Registers a parser and gives a handle to it; a name that is taken is refused. -/
def register (h : Host) (p : Parser) : Except DebugInfoError ParserHandle × List Event × Host :=
  if h.registry.parsers.any fun q => q.parser.name == p.name then
    (.error (.notSupported (.alreadyRegistered p.name)), [.refused p.name], h)
  else
    let (number, parserCounts) := h.parserCounts.alloc ()
    let handle : ParserHandle := ⟨number, p⟩
    let h := { h with
      parserCounts
      registry := { h.registry with parsers := h.registry.parsers ++ [handle] } }
    (.ok handle, [], h.retainParsers [handle])

/-- A handle to the parser of a name. -/
def getParser (h : Host) (name : String) : Except DebugInfoError ParserHandle × Host :=
  match h.registry.parsers.find? fun p => p.parser.name == name with
  | some p => (.ok p, h.retainParsers [p])
  | none => (.error (.parserNotFound name), h)

/-- Rents the list of the registered parsers. -/
def listParsers (h : Host) : Rented × Host :=
  h.rent h.registry.tracker (.parsers h.registry.parsers)

/-- A callback of a parser, run to its end: what it gives, or the message with which it fails, and
what happened. -/
def isolate {α : Type} (p : Parser) (stage : Stage) (callback : Outcome α) :
    Except String α × List Event :=
  match callback.result with
  | .ok a => (.ok a, [.called stage p.name])
  | .error message => (.error message, [.called stage p.name, .failed stage p.name message])

/-- Asks a parser whether it applies to a view; a callback that fails counts as no. -/
def appliesTo (p : Parser) (v : ViewInfo) : Bool × List Event :=
  match isolate p .isValid (p.isValid v) with
  | (.ok answer, events) => (answer, events)
  | (.error _, events) => (false, events)

/-- The parsers that apply to a view, and what happened while they were asked in turn. -/
def applicable (v : ViewInfo) : List ParserHandle → List ParserHandle × List Event
  | [] => ([], [])
  | p :: ps =>
    let (yes, events) := appliesTo p.parser v
    let (rest, later) := applicable v ps
    (if yes then p :: rest else rest, events ++ later)

/-- Rents the list of the parsers that apply to a view. -/
def parsersForView (h : Host) (v : View) : Rented × List Event × Host :=
  let (candidates, h) := h.listParsers
  let (chosen, events) := applicable v.info candidates.contents.parserHandles
  let (array, h) := h.rent h.registry.tracker (.parsers chosen)
  (array, events, h.takeBack candidates)

/-! ## Parsing -/

/-- The state of a running script: the host, the store it fills, and what it has rented. -/
structure Frame where
  host : Host
  staged : Store
  rented : List Rented

/-- Runs a script for a contributor on a view. -/
def runScript (contributor : String) (v : View) : Script → Frame → Outcome Unit × Frame
  | .finish outcome, frame => (outcome, frame)
  | .add item next, frame =>
    let (answer, staged) := frame.staged.add contributor item
    runScript contributor v (next answer) { frame with staged }
  | .rentFunctions next, frame =>
    let (array, host) := frame.host.rentFunctions v
    runScript contributor v (next array.contents.functionHandles)
      { frame with host, rented := array :: frame.rented }
  | .giveBack next, frame =>
    match frame.rented with
    | [] => runScript contributor v next frame
    | array :: rest =>
      runScript contributor v next { frame with host := frame.host.takeBack array, rented := rest }

/-- Runs a parser on a view into a store of its own; arrays that are still out come back, however
the parser ends. -/
def stage (h : Host) (p : Parser) (v : View) : Except String Store × List Event × Host :=
  let (outcome, frame) := runScript p.name v (p.script v.info) ⟨h, {}, []⟩
  let (answer, events) := isolate p .parseInfo outcome
  (answer.map fun _ => frame.staged, events, frame.host.takeBackAll frame.rented)

/-- Runs a parser on a view and merges what it found into an existing session, or into a new one
of its own. A parser that fails leaves nothing behind and gives no session. -/
def parseWith (h : Host) (p : Parser) (v : View) (existing : Option Nat) :
    Option Nat × List Event × Host :=
  let (staged, events, h) := h.stage p v
  match staged with
  | .error _ => (none, events, h)
  | .ok store =>
    let (session, h) := match existing with
      | some n => (n, h.retainSession n)
      | none => h.newSession p.name
    (some session, events, h.mergeInto session store)

/-- Runs parsers on a view one after the other into a session, and skips those that fail. -/
def parseEach (v : View) (session : Nat) : List ParserHandle → Host → List Event × Host
  | [], h => ([], h)
  | p :: ps, h =>
    let (parsed, events, h) := h.parseWith p.parser v (some session)
    let (noted, h) : List Event × Host := match parsed with
      | some n => ([], h.releaseSession n)
      | none => ([.skipped p.parser.name v.info.file], h)
    let (later, h) := parseEach v session ps h
    (events ++ noted ++ later, h)

/-- Runs all parsers that apply to a view into an existing session, or into a new one, and gives a
handle to it. -/
def parseAll (h : Host) (v : View) (existing : Option Nat) : Nat × List Event × Host :=
  let (session, h) := match existing with
    | some n => (n, h.retainSession n)
    | none => h.newSession userContributor
  let (array, asked, h) := h.parsersForView v
  let (parsed, h) := parseEach v session array.contents.parserHandles h
  (session, asked ++ parsed, h.takeBack array)

end ValueLattice.Host
