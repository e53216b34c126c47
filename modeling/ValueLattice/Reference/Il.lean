/-
References from expressions of an intermediate language. They are ordered by function, then by
architecture name, address, language and expression number; a missing function or architecture
comes first.
-/
import ValueLattice.Engine
import ValueLattice.Order

namespace ValueLattice

/-- The forms in which the code of a function is given. -/
inductive IlForm
  | disassembly
  | lowLevel
  | lifted
  | lowLevelSsa
  | mediumLevel
  | mediumLevelSsa
  | mappedMediumLevel
  | mappedMediumLevelSsa
  | highLevel
  | highLevelSsa
  deriving DecidableEq, Repr

namespace IlForm

def rank : IlForm → Nat
  | disassembly => 0
  | lowLevel => 1
  | lifted => 2
  | lowLevelSsa => 3
  | mediumLevel => 4
  | mediumLevelSsa => 5
  | mappedMediumLevel => 6
  | mappedMediumLevelSsa => 7
  | highLevel => 8
  | highLevelSsa => 9

def text : IlForm → String
  | disassembly => "disassembly"
  | lowLevel => "llil"
  | lifted => "lifted_llil"
  | lowLevelSsa => "llil_ssa"
  | mediumLevel => "mlil"
  | mediumLevelSsa => "mlil_ssa"
  | mappedMediumLevel => "mapped_mlil"
  | mappedMediumLevelSsa => "mapped_mlil_ssa"
  | highLevel => "hlil"
  | highLevelSsa => "hlil_ssa"

end IlForm

/-- An expression that refers to something. -/
structure IlReference where
  function : Option FunctionHandle
  arch : Option Architecture
  address : UInt64
  form : IlForm
  expr : UInt64

namespace IlReference

/-- The handles that a reference owns. -/
def handles (r : IlReference) : List FunctionHandle :=
  r.function.toList

def archName (r : IlReference) : Option String :=
  r.arch.map Architecture.name

instance : BEq IlReference where
  beq a b :=
    a.function.map (fun f => (f.start, f.number)) == b.function.map (fun f => (f.start, f.number)) &&
      a.archName == b.archName && a.address == b.address && a.form == b.form && a.expr == b.expr

instance : Hashed IlReference where
  feed r :=
    feedOption (fun f => [.word64 f.start, .handle f.number]) r.function ++
      feedOption (fun s => [.text s]) r.archName ++
      [.word64 r.address, .variant r.form.rank, .word64 r.expr]

def order (a b : IlReference) : Ordering :=
  (orderOption FunctionHandle.order a.function b.function).then <|
    (orderOption compare a.archName b.archName).then <|
      (compare a.address b.address).then <|
        (compare a.form.rank b.form.rank).then (compare a.expr b.expr)

def text (r : IlReference) : String :=
  let site := Numeral.hex r.address.toNat ++ ", " ++ r.form.text ++ "@" ++
    Numeral.decimalNat r.expr.toNat ++ ">"
  match r.archName with
  | some name => "<ref: " ++ name ++ "@" ++ site
  | none => "<ref: " ++ site

end IlReference

/-- Whether two optional handles lead to different functions at one address. -/
def twinFunctions : Option FunctionHandle → Option FunctionHandle → Bool
  | some f, some g => f.twins g
  | _, _ => false

end ValueLattice
