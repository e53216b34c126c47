/-
Types of variables, parameters and data: a class, a name, a width in bytes and a confidence.
Widths saturate at the largest word.
-/
import ValueLattice.Hashing
import ValueLattice.Numeral
import ValueLattice.RegisterValue

namespace ValueLattice

inductive TyClass
  | void
  | bool
  | integer
  | float
  | pointer
  | record
  | enumeration
  | function
  | array
  deriving DecidableEq, Repr

/-- The place of a class in the list of classes. -/
def TyClass.rank : TyClass → Nat
  | void => 0
  | bool => 1
  | integer => 2
  | float => 3
  | pointer => 4
  | record => 5
  | enumeration => 6
  | function => 7
  | array => 8

def TyClass.text : TyClass → String
  | void => "Void"
  | bool => "Bool"
  | integer => "Integer"
  | float => "Float"
  | pointer => "Pointer"
  | record => "Structure"
  | enumeration => "Enumeration"
  | function => "Function"
  | array => "Array"

def TyClass.all : List TyClass :=
  [void, bool, integer, float, pointer, record, enumeration, function, array]

structure Ty where
  cls : TyClass
  name : String
  width : UInt64
  confidence : UInt8 := maxConfidence
  deriving DecidableEq, Repr

/-- The product of two words, the largest word if it does not fit. -/
def saturatingMul (a b : UInt64) : UInt64 :=
  UInt64.ofNat (min (a.toNat * b.toNat) (unsignedLimit - 1))

namespace Ty

def void : Ty :=
  { cls := .void, name := "void", width := 0 }

instance : Inhabited Ty := ⟨void⟩

def bool : Ty :=
  { cls := .bool, name := "bool", width := 1 }

/-- The integer type of a width in bytes, such as `uint32_t`. -/
def int (width : UInt64) (signed : Bool) : Ty where
  cls := .integer
  name := (if signed then "int" else "uint") ++
    Numeral.decimalNat (saturatingMul width 8).toNat ++ "_t"
  width := width

/-- The floating-point type of a width in bytes; four and eight have names of their own. -/
def float (width : UInt64) : Ty where
  cls := .float
  name :=
    if width = 4 then "float"
    else if width = 8 then "double"
    else "float" ++ Numeral.decimalNat (saturatingMul width 8).toNat
  width := width

def pointer (width : UInt64) (target : Ty) : Ty :=
  { cls := .pointer, name := target.name ++ "*", width := width }

def array (element : Ty) (count : UInt64) : Ty where
  cls := .array
  name := element.name ++ "[" ++ Numeral.decimalNat count.toNat ++ "]"
  width := saturatingMul element.width count

def named (cls : TyClass) (name : String) (width : UInt64) : Ty :=
  { cls := cls, name := name, width := width }

def withConfidence (t : Ty) (confidence : UInt8) : Ty :=
  { t with confidence := confidence }

/-- Whether a value of the type takes up a place. -/
def hasStorage (t : Ty) : Bool :=
  t.cls != .void

def text (t : Ty) : String :=
  t.name

instance : Hashed Ty where
  feed t := [.variant t.cls.rank, .text t.name, .word64 t.width, .byte t.confidence]

end Ty

end ValueLattice
