/-
The host of debug information: the sessions, the functions of views, the registered parsers, and
the arrays that are rented out of all of these. Every operation that hands out a handle or an array
counts it.
-/
import ValueLattice.DebugInfo.Script
import ValueLattice.Rental

namespace ValueLattice

/-! ## Handles and arrays -/

/-- A handle to a registered parser. -/
structure ParserHandle where
  number : Nat
  parser : Parser

/-- The items of a rented array. -/
inductive Contents
  | numbers (items : List Int64)
  | parsers (items : List ParserHandle)
  | functions (items : List FunctionHandle)
  | types (items : List NamedType)
  | functionInfos (items : List FunctionInfo)
  | data (items : List DataVariable)

namespace Contents

def length : Contents → Nat
  | numbers items => items.length
  | parsers items => items.length
  | functions items => items.length
  | types items => items.length
  | functionInfos items => items.length
  | data items => items.length

/-- The functions that the items are handles to. -/
def functionHandles : Contents → List FunctionHandle
  | functions items => items
  | _ => []

/-- The parsers that the items are handles to. -/
def parserHandles : Contents → List ParserHandle
  | parsers items => items
  | _ => []

end Contents

/-- An array that is out, and the tracker it was rented through. -/
structure Rented where
  tracker : Nat
  contents : Contents

/-! ## The host -/

/-- The three lists of a session. -/
inductive ItemList
  | types
  | functions
  | data
  deriving DecidableEq, Repr

/-- A session: who it adds for, what it holds, and the tracker of its arrays. -/
structure DebugSession where
  contributor : String
  store : Store
  tracker : Nat

/-- A view owns a handle to each of its functions. -/
structure View where
  info : ViewInfo
  functions : List FunctionHandle
  tracker : Nat

/-- The registered parsers in order of registration, one handle each. -/
structure Registry where
  parsers : List ParserHandle
  tracker : Nat

structure Host where
  engine : Engine
  parserCounts : Heap Unit
  sessions : Heap DebugSession
  trackers : Trackers
  registry : Registry

/-- The contributor of what is not added by a parser. -/
def userContributor : String := "user"

namespace Host

/-- A host with an empty registry. -/
def empty : Host :=
  let (tracker, trackers) := Trackers.new {}
  { engine := Heap.empty, parserCounts := Heap.empty, sessions := Heap.empty, trackers
    registry := ⟨[], tracker⟩ }

/-! ## Renting -/

def newTracker (h : Host) : Nat × Host :=
  let (n, trackers) := h.trackers.new
  (n, { h with trackers })

def retainParsers (h : Host) (ps : List ParserHandle) : Host :=
  { h with parserCounts := h.parserCounts.retainAll (ps.map ParserHandle.number) }

def releaseParsers (h : Host) (ps : List ParserHandle) : Host :=
  { h with parserCounts := h.parserCounts.releaseAll (ps.map ParserHandle.number) }

/-- Rents out an array through a tracker; its handles are new ones. -/
def rent (h : Host) (tracker : Nat) (contents : Contents) : Rented × Host :=
  (⟨tracker, contents⟩,
    { h.retainParsers contents.parserHandles with
      engine := h.engine.takeHandles contents.functionHandles
      trackers := h.trackers.rentOut tracker })

/-- Takes an array back with the handles in it. -/
def takeBack (h : Host) (array : Rented) : Host :=
  { h.releaseParsers array.contents.parserHandles with
    engine := h.engine.giveHandles array.contents.functionHandles
    trackers := h.trackers.takeBack array.tracker }

def takeBackAll (h : Host) (arrays : List Rented) : Host :=
  arrays.foldl takeBack h

/-- Rents the functions of a view. -/
def rentFunctions (h : Host) (v : View) : Rented × Host :=
  h.rent v.tracker (.functions v.functions)

/-! ## Sessions -/

/-- A new session with one handle. -/
def newSession (h : Host) (contributor : String) : Nat × Host :=
  let (tracker, h) := h.newTracker
  let (n, sessions) := h.sessions.alloc ⟨contributor, {}, tracker⟩
  (n, { h with sessions })

def retainSession (h : Host) (n : Nat) : Host :=
  { h with sessions := h.sessions.retain n }

def releaseSession (h : Host) (n : Nat) : Host :=
  { h with sessions := h.sessions.release n }

/-- Adds an item to a session for its contributor. -/
def addItem (h : Host) (n : Nat) (item : NewItem) : Option (Except DebugInfoError Bool) × Host :=
  match h.sessions.get? n with
  | none => (none, h)
  | some s =>
    let (answer, store) := s.store.add s.contributor item
    (some answer, { h with sessions := h.sessions.modify n fun s => { s with store } })

/-- Takes the contents of a store over into a session. -/
def mergeInto (h : Host) (n : Nat) (incoming : Store) : Host :=
  { h with sessions := h.sessions.modify n fun s => { s with store := s.store.merge incoming } }

/-- Rents a list of a session, of one contributor or of all. -/
def rentItems (h : Host) (n : Nat) (what : ItemList) (parser : Option String) :
    Option Rented × Host :=
  match h.sessions.get? n with
  | none => (none, h)
  | some s =>
    let contents : Contents := match what with
      | .types => .types (s.store.typesOf parser)
      | .functions => .functionInfos (s.store.functionsOf parser)
      | .data => .data (s.store.dataOf parser)
    let (array, h) := h.rent s.tracker contents
    (some array, h)

end Host

end ValueLattice
