/-
A bench: a host together with what its caller holds under names, namely trackers, functions,
parsers, sessions, views and rented arrays. Each kind has its own names. Holding something gives
up what was held under the same name, and dropping a name gives up everything of that name.
-/
import ValueLattice.DebugInfo.Registry

namespace ValueLattice

structure Bench where
  host : Host := Host.empty
  trackers : Keyed String Nat := Keyed.empty
  functions : Keyed String FunctionHandle := Keyed.empty
  parsers : Keyed String ParserHandle := Keyed.empty
  sessions : Keyed String Nat := Keyed.empty
  views : Keyed String View := Keyed.empty
  arrays : Keyed String Rented := Keyed.empty

/-- What can be done at a bench. An optional name tells under which name to hold the result. -/
inductive Act
  | newTracker (id : String)
  | shareTracker (id of : String)
  | rentNumbers (id tracker : String) (items : List Int64)
  | numberAt (id : String) (index : Nat)
  /-- Like `numberAt`, but a missing number is a panic. -/
  | demandNumber (id : String) (index : Nat)
  | consume (tracker : String) (items : List Int64) (panics : Bool)
  | newView (id : String) (info : ViewInfo)
  | addNewFunction (view : String) (start : UInt64) (id : Option String)
  | addHeldFunction (view function : String) (id : Option String)
  | showView (view : String)
  | rentViewFunctions (id view : String)
  | register (parser : Parser) (id : Option String)
  | getParser (name : String) (id : Option String)
  | list
  | listForView (view : String)
  | rentParsers (id : String)
  | rentParsersForView (id view : String)
  | askValid (parser view : String)
  | parse (parser view : String) (existing id : Option String)
  | parseAll (view : String) (existing id : Option String)
  | newSession (id contributor : String)
  | shareSession (id of : String)
  | addItem (session : String) (item : NewItem)
  | items (session : String) (what : ItemList) (parser : Option String)
  | rentItems (id session : String) (what : ItemList) (parser : Option String)
  | showSession (session : String)
  | drop (id : String)
  | dropArray (id : String)

/-- What an act answers. -/
inductive Answer
  | nothing
  | flag (b : Bool)
  | number (v : Int64)
  | sum (total : Int)
  /-- Adding up stopped at a zero. -/
  | stopped (position : Nat)
  | panicked
  | view (info : ViewInfo) (functions : List FunctionHandle) (outstanding : Int)
  | parser (p : ParserHandle)
  | refused (e : DebugInfoError)
  | contents (c : Contents)
  | session (s : DebugSession)

/-- Adds up numbers from the left and leaves at the first zero, by an error or by a panic. -/
def addUp (panics : Bool) : List Int64 → Nat → Int → Answer
  | [], _, total => .sum total
  | v :: vs, position, total =>
    if v = 0 then (if panics then .panicked else .stopped position)
    else addUp panics vs (position + 1) (total + v.toInt)

namespace Bench

/-! ## Holding -/

def holdFunction (b : Bench) (id : Option String) (f : FunctionHandle) : Bench :=
  match id with
  | none => { b with host := { b.host with engine := b.host.engine.giveHandles [f] } }
  | some id =>
    let old := (b.functions.get? id).toList
    { b with
      functions := b.functions.put id f
      host := { b.host with engine := b.host.engine.giveHandles old } }

def holdParser (b : Bench) (id : Option String) (p : ParserHandle) : Bench :=
  match id with
  | none => { b with host := b.host.releaseParsers [p] }
  | some id =>
    { b with
      parsers := b.parsers.put id p
      host := b.host.releaseParsers (b.parsers.get? id).toList }

def holdSession (b : Bench) (id : Option String) (n : Nat) : Bench :=
  match id with
  | none => { b with host := b.host.releaseSession n }
  | some id =>
    { b with
      sessions := b.sessions.put id n
      host := match b.sessions.get? id with
        | some old => b.host.releaseSession old
        | none => b.host }

def holdArray (b : Bench) (id : String) (array : Rented) : Bench :=
  { b with
    arrays := b.arrays.put id array
    host := b.host.takeBackAll (b.arrays.get? id).toList }

/-- The host without the functions of a view. -/
def giveUpView (h : Host) (v : View) : Host :=
  { h with engine := h.engine.giveHandles v.functions }

def holdView (b : Bench) (id : String) (v : View) : Bench :=
  { b with
    views := b.views.put id v
    host := match b.views.get? id with
      | some old => giveUpView b.host old
      | none => b.host }

/-- Gives up an array; tells whether it was held. -/
def dropArray (b : Bench) (id : String) : Bool × Bench :=
  match b.arrays.get? id with
  | none => (false, b)
  | some array => (true, { b with arrays := b.arrays.erase id, host := b.host.takeBack array })

def dropFunction (b : Bench) (id : String) : Bool × Bench :=
  match b.functions.get? id with
  | none => (false, b)
  | some f =>
    (true, { b with
      functions := b.functions.erase id
      host := { b.host with engine := b.host.engine.giveHandles [f] } })

def dropParser (b : Bench) (id : String) : Bool × Bench :=
  match b.parsers.get? id with
  | none => (false, b)
  | some p => (true, { b with parsers := b.parsers.erase id, host := b.host.releaseParsers [p] })

def dropSession (b : Bench) (id : String) : Bool × Bench :=
  match b.sessions.get? id with
  | none => (false, b)
  | some n => (true, { b with sessions := b.sessions.erase id, host := b.host.releaseSession n })

def dropView (b : Bench) (id : String) : Bool × Bench :=
  match b.views.get? id with
  | none => (false, b)
  | some v => (true, { b with views := b.views.erase id, host := giveUpView b.host v })

/-- Gives up everything of a name; tells whether there was anything. -/
def drop (b : Bench) (id : String) : Bool × Bench :=
  let (p, b) := b.dropParser id
  let (s, b) := b.dropSession id
  let (f, b) := b.dropFunction id
  let (a, b) := b.dropArray id
  let (v, b) := b.dropView id
  (p || s || f || a || v, b)

/-! ## Observing -/

/-- The session held under a name. -/
def session? (b : Bench) (id : String) : Option DebugSession :=
  (b.sessions.get? id).bind fun n => b.host.sessions.get? n

/-- The arrays that are out through a tracker held under a name. -/
def outstanding (b : Bench) (id : String) : Int :=
  match b.trackers.get? id with
  | some n => b.host.trackers.outstanding n
  | none => 0

/-- The arrays that are out of the registry. -/
def registryOutstanding (b : Bench) : Int :=
  b.host.trackers.outstanding b.host.registry.tracker

/-- The views with the numbers of their arrays that are out. -/
def viewsOutstanding (b : Bench) : List (String × Int) :=
  b.views.rows.map fun row => (row.1, b.host.trackers.outstanding row.2.tracker)

/-- The numbers of handles to what is held under a name. -/
def handleCounts (b : Bench) : List (String × Nat) :=
  (b.parsers.rows.map fun row =>
      ("parser " ++ row.1, b.host.parserCounts.references row.2.number)) ++
    (b.sessions.rows.map fun row => ("session " ++ row.1, b.host.sessions.references row.2)) ++
    (b.functions.rows.map fun row =>
      ("function " ++ row.1, b.host.engine.references row.2.number))

/-- Whether two names hold handles to one session. -/
def sameSession (b : Bench) (x y : String) : Bool :=
  match b.sessions.get? x, b.sessions.get? y with
  | some m, some n => m == n
  | _, _ => false

/-- Whether two names hold handles to one parser. -/
def sameParser (b : Bench) (x y : String) : Bool :=
  match b.parsers.get? x, b.parsers.get? y with
  | some p, some q => p.number == q.number
  | _, _ => false

/-- The number at an index of an array of numbers. -/
def numberAt? (b : Bench) (id : String) (index : Nat) : Option Int64 :=
  match b.arrays.get? id with
  | some ⟨_, .numbers items⟩ => items[index]?
  | _ => none

/-- A session as an answer. -/
def answerSession (b : Bench) (n : Nat) : Answer :=
  match b.host.sessions.get? n with
  | some s => .session s
  | none => .nothing

/-! ## Arrays -/

/-- The answer to reading an array that goes back at once. -/
def readAndReturn (b : Bench) (array : Rented) : Answer × Bench :=
  (.contents array.contents, { b with host := b.host.takeBack array })

/-- The answer to an array that is held. -/
def readAndHold (b : Bench) (id : String) (array : Rented) : Answer × Bench :=
  (.contents array.contents, b.holdArray id array)

def rentNumbers (b : Bench) (id tracker : String) (items : List Int64) : Bench :=
  match b.trackers.get? tracker with
  | none => b
  | some n =>
    let (array, host) := b.host.rent n (.numbers items)
    { b with host }.holdArray id array

/-- Rents numbers, adds them up, and returns the array on each way out. -/
def consume (b : Bench) (tracker : String) (items : List Int64) (panics : Bool) : Answer × Bench :=
  match b.trackers.get? tracker with
  | none => (.nothing, b)
  | some n =>
    let (array, host) := b.host.rent n (.numbers items)
    (addUp panics items 0 0, { b with host := host.takeBack array })

/-! ## Views -/

def newView (b : Bench) (id : String) (info : ViewInfo) : Bench :=
  let (n, host) := b.host.newTracker
  { b with host }.holdView id ⟨info, [], n⟩

/-- Adds a function to a held view; the view owns the given handle. -/
def addToView (b : Bench) (id : String) (f : FunctionHandle) : Bench :=
  { b with views := b.views.modify id fun v => { v with functions := v.functions ++ [f] } }

/-- Takes one handle more to a function. -/
def takeFunction (b : Bench) (f : FunctionHandle) : Bench :=
  { b with host := { b.host with engine := b.host.engine.takeHandles [f] } }

/-- Adds a function that starts at an address to a view. -/
def addNewFunction (b : Bench) (view : String) (start : UInt64) (id : Option String) : Bench :=
  match b.views.get? view with
  | none => b
  | some _ =>
    let (f, engine) := b.host.engine.newFunction start none
    let b := { b with host := { b.host with engine } }
    ((b.takeFunction f).addToView view f).holdFunction id f

/-- Adds a held function to a view. -/
def addHeldFunction (b : Bench) (view function : String) (id : Option String) : Bench :=
  match b.views.get? view, b.functions.get? function with
  | some _, some f =>
    let b := (b.takeFunction f).addToView view f
    (b.takeFunction f).holdFunction id f
  | _, _ => b

/-- What a view shows while its functions are rented. -/
def showView (b : Bench) (view : String) : Answer × Bench :=
  match b.views.get? view with
  | none => (.nothing, b)
  | some v =>
    let (array, host) := b.host.rentFunctions v
    (.view v.info array.contents.functionHandles (host.trackers.outstanding v.tracker),
      { b with host := host.takeBack array })

def rentViewFunctions (b : Bench) (id view : String) : Answer × Bench :=
  match b.views.get? view with
  | none => (.nothing, b)
  | some v =>
    let (array, host) := b.host.rentFunctions v
    { b with host }.readAndHold id array

/-! ## Parsers -/

def register (b : Bench) (parser : Parser) (id : Option String) : Answer × List Event × Bench :=
  let (answer, events, host) := b.host.register parser
  let b := { b with host }
  match answer with
  | .ok p => (.parser p, events, b.holdParser id p)
  | .error e => (.refused e, events, b)

def getParser (b : Bench) (name : String) (id : Option String) : Answer × Bench :=
  let (answer, host) := b.host.getParser name
  let b := { b with host }
  match answer with
  | .ok p => (.parser p, b.holdParser id p)
  | .error e => (.refused e, b)

def list (b : Bench) : Answer × Bench :=
  let (array, host) := b.host.listParsers
  { b with host }.readAndReturn array

def rentParsers (b : Bench) (id : String) : Answer × Bench :=
  let (array, host) := b.host.listParsers
  { b with host }.readAndHold id array

def listForView (b : Bench) (view : String) : Answer × List Event × Bench :=
  match b.views.get? view with
  | none => (.nothing, [], b)
  | some v =>
    let (array, events, host) := b.host.parsersForView v
    let (answer, b) := { b with host }.readAndReturn array
    (answer, events, b)

def rentParsersForView (b : Bench) (id view : String) : Answer × List Event × Bench :=
  match b.views.get? view with
  | none => (.nothing, [], b)
  | some v =>
    let (array, events, host) := b.host.parsersForView v
    let (answer, b) := { b with host }.readAndHold id array
    (answer, events, b)

/-- Asks a held parser whether it applies to a view. -/
def askValid (b : Bench) (parser view : String) : Answer × List Event :=
  match b.parsers.get? parser, b.views.get? view with
  | some p, some v =>
    let (answer, events) := Host.appliesTo p.parser v.info
    (.flag answer, events)
  | _, _ => (.nothing, [])

/-- Runs a held parser on a view. -/
def parse (b : Bench) (parser view : String) (existing id : Option String) :
    Answer × List Event × Bench :=
  match b.parsers.get? parser, b.views.get? view with
  | some p, some v =>
    let (session, events, host) := b.host.parseWith p.parser v (existing.bind b.sessions.get?)
    let b := { b with host }
    match session with
    | some n => (b.answerSession n, events, b.holdSession id n)
    | none => (.nothing, events, b)
  | _, _ => (.nothing, [], b)

/-- Runs all parsers that apply to a view. -/
def parseAll (b : Bench) (view : String) (existing id : Option String) :
    Answer × List Event × Bench :=
  match b.views.get? view with
  | none => (.nothing, [], b)
  | some v =>
    let (n, events, host) := b.host.parseAll v (existing.bind b.sessions.get?)
    let b := { b with host }
    (b.answerSession n, events, b.holdSession id n)

/-! ## Sessions -/

def newSession (b : Bench) (id contributor : String) : Bench :=
  let (n, host) := b.host.newSession contributor
  { b with host }.holdSession (some id) n

def shareSession (b : Bench) (id of : String) : Bench :=
  match b.sessions.get? of with
  | none => b
  | some n => { b with host := b.host.retainSession n }.holdSession (some id) n

def addItem (b : Bench) (session : String) (item : NewItem) : Answer × Bench :=
  match b.sessions.get? session with
  | none => (.nothing, b)
  | some n =>
    let (answer, host) := b.host.addItem n item
    match answer with
    | some (.ok added) => (.flag added, { b with host })
    | some (.error e) => (.refused e, { b with host })
    | none => (.nothing, b)

/-- Rents a list of a held session, to be read or to be held under a name. -/
def itemsOf (b : Bench) (session : String) (what : ItemList) (parser : Option String)
    (id : Option String) : Answer × Bench :=
  match b.sessions.get? session with
  | none => (.nothing, b)
  | some n =>
    match b.host.rentItems n what parser, id with
    | (some array, host), some id => { b with host }.readAndHold id array
    | (some array, host), none => { b with host }.readAndReturn array
    | (none, _), _ => (.nothing, b)

/-! ## Acting -/

/-- An act that nothing is recorded of. -/
def quietly (r : Answer × Bench) : Answer × List Event × Bench :=
  (r.1, [], r.2)

/-- The bench after an act, what the act answers, and what happened. -/
def step (b : Bench) : Act → Answer × List Event × Bench
  | .newTracker id =>
    let (n, host) := b.host.newTracker
    (.nothing, [], { b with host, trackers := b.trackers.put id n })
  | .shareTracker id of =>
    match b.trackers.get? of with
    | some n => (.nothing, [], { b with trackers := b.trackers.put id n })
    | none => (.nothing, [], b)
  | .rentNumbers id tracker items => (.nothing, [], b.rentNumbers id tracker items)
  | .numberAt id index =>
    match b.numberAt? id index with
    | some v => (.number v, [], b)
    | none => (.nothing, [], b)
  | .demandNumber id index =>
    match b.numberAt? id index with
    | some v => (.number v, [], b)
    | none => (.panicked, [], b)
  | .consume tracker items panics => quietly (b.consume tracker items panics)
  | .newView id info => (.nothing, [], b.newView id info)
  | .addNewFunction view start id => (.nothing, [], b.addNewFunction view start id)
  | .addHeldFunction view function id => (.nothing, [], b.addHeldFunction view function id)
  | .showView view => quietly (b.showView view)
  | .rentViewFunctions id view => quietly (b.rentViewFunctions id view)
  | .register parser id => b.register parser id
  | .getParser name id => quietly (b.getParser name id)
  | .list => quietly b.list
  | .listForView view => b.listForView view
  | .rentParsers id => quietly (b.rentParsers id)
  | .rentParsersForView id view => b.rentParsersForView id view
  | .askValid parser view =>
    let (answer, events) := b.askValid parser view
    (answer, events, b)
  | .parse parser view existing id => b.parse parser view existing id
  | .parseAll view existing id => b.parseAll view existing id
  | .newSession id contributor => (.nothing, [], b.newSession id contributor)
  | .shareSession id of => (.nothing, [], b.shareSession id of)
  | .addItem session item => quietly (b.addItem session item)
  | .items session what parser => quietly (b.itemsOf session what parser none)
  | .rentItems id session what parser => quietly (b.itemsOf session what parser (some id))
  | .showSession session =>
    match b.session? session with
    | some s => (.session s, [], b)
    | none => (.nothing, [], b)
  | .drop id =>
    let (found, b) := b.drop id
    (.flag found, [], b)
  | .dropArray id =>
    let (found, b) := b.dropArray id
    (.flag found, [], b)

end Bench

end ValueLattice
