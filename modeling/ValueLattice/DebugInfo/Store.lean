/-
The contents of a debug-info session: types, functions and data variables, each with the parser
that contributed it. A parser contributes at most one type under a name and one function or data
variable at an address. Adding and merging append and never change what is there.
-/
import ValueLattice.DebugInfo.Error
import ValueLattice.DebugInfo.Item

namespace ValueLattice

/-- An item and the parser it came from. -/
structure Contribution (α : Type) where
  parser : String
  item : α
  deriving DecidableEq, Repr

namespace Contribution

variable {α κ : Type} [DecidableEq κ]

/-- Whether two contributions of one parser have the same key. -/
def clashes (key : α → κ) (a b : Contribution α) : Bool :=
  a.parser == b.parser && key a.item == key b.item

/-- Appends a contribution unless it clashes with one that is there. -/
def append (key : α → κ) (rows : List (Contribution α)) (c : Contribution α) :
    List (Contribution α) :=
  if rows.any fun r => clashes key r c then rows else rows ++ [c]

/-- Appends several contributions one after the other. -/
def appendAll (key : α → κ) (rows incoming : List (Contribution α)) : List (Contribution α) :=
  incoming.foldl (append key) rows

/-- The items that a parser contributed, or all of them. -/
def itemsOf (rows : List (Contribution α)) (parser : Option String) : List α :=
  (rows.filter fun r => parser.all fun p => r.parser == p).map Contribution.item

end Contribution

/-- The first occurrence of each name. -/
def firstOccurrences : List String → List String
  | [] => []
  | name :: rest => name :: (firstOccurrences rest).filter fun n => n != name

structure Store where
  types : List (Contribution NamedType) := []
  functions : List (Contribution FunctionInfo) := []
  data : List (Contribution DataVariable) := []
  deriving DecidableEq, Repr

namespace Store

/-! ## Adding -/

/-- Adds a row and tells whether it is new. -/
def addRow {α κ : Type} [DecidableEq κ] (key : α → κ) (rows : List (Contribution α))
    (c : Contribution α) : Bool × List (Contribution α) :=
  (!rows.any fun r => Contribution.clashes key r c, Contribution.append key rows c)

def addType (s : Store) (parser name : String) (type : Ty) : Bool × Store :=
  let (added, types) := addRow NamedType.name s.types ⟨parser, ⟨name, type⟩⟩
  (added, { s with types })

/-- Adds a function; a parameter without storage is refused. -/
def addFunction (s : Store) (parser : String) (info : FunctionInfo) :
    Except DebugInfoError Bool × Store :=
  match info.parameters.find? fun p => !p.2.hasStorage with
  | some (name, type) => (.error (.notSupported (.parameterWithoutStorage name type)), s)
  | none =>
    let (added, functions) := addRow FunctionInfo.address s.functions ⟨parser, info⟩
    (.ok added, { s with functions })

/-- Adds a data variable; a type without storage is refused. -/
def addData (s : Store) (parser : String) (address : UInt64) (type : Ty) (name : Option String) :
    Except DebugInfoError Bool × Store :=
  if type.hasStorage then
    let (added, data) := addRow DataVariable.address s.data
      ⟨parser, ⟨address, type, name, true, type.confidence⟩⟩
    (.ok added, { s with data })
  else (.error (.notSupported (.dataWithoutStorage address type)), s)

/-- Adds an item for a parser; tells whether it is new. -/
def add (s : Store) (parser : String) : NewItem → Except DebugInfoError Bool × Store
  | .type name type =>
    let (added, s) := s.addType parser name type
    (.ok added, s)
  | .function info => s.addFunction parser info
  | .data address type name => s.addData parser address type name

/-! ## Merging and listing -/

/-- Takes over what another store holds, with its contributors, except for clashing items. -/
def merge (s incoming : Store) : Store where
  types := Contribution.appendAll NamedType.name s.types incoming.types
  functions := Contribution.appendAll FunctionInfo.address s.functions incoming.functions
  data := Contribution.appendAll DataVariable.address s.data incoming.data

/-- The contributors, those of types first, then those of functions and of data variables. -/
def parserNames (s : Store) : List String :=
  firstOccurrences (s.types.map Contribution.parser ++ s.functions.map Contribution.parser ++
    s.data.map Contribution.parser)

def typesOf (s : Store) (parser : Option String) : List NamedType :=
  Contribution.itemsOf s.types parser

def functionsOf (s : Store) (parser : Option String) : List FunctionInfo :=
  Contribution.itemsOf s.functions parser

def dataOf (s : Store) (parser : Option String) : List DataVariable :=
  Contribution.itemsOf s.data parser

end Store

end ValueLattice
