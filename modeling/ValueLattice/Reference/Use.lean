/-
References to variables: from expressions, from stack accesses, from the parameters of a function,
and from hints about values. Each owns the variables in it.
-/
import ValueLattice.Reference.Il
import ValueLattice.Reference.Site
import ValueLattice.ValueSet.Format
import ValueLattice.Variable

namespace ValueLattice

/-! ## Uses in expressions -/

/-- An expression that uses a variable. -/
structure VariableUse where
  var : Variable
  source : IlReference

namespace VariableUse

def handles (u : VariableUse) : List FunctionHandle :=
  u.var.handles ++ u.source.handles

instance : BEq VariableUse where
  beq a b := a.var == b.var && a.source == b.source

instance : Hashed VariableUse where
  feed u := feed u.var ++ feed u.source

/-- Uses are ordered by the identifier of the variable, its function, and the expression. -/
def order (a b : VariableUse) : Ordering :=
  (compare a.var.identifier b.var.identifier).then <|
    (orderOption FunctionHandle.order a.var.function b.var.function).then <|
      a.source.order b.source

/-- The text of a use whose variable is shown as `shown`. -/
def text (u : VariableUse) (shown : String) : String :=
  "<var: " ++ shown ++ ", src: " ++ u.source.text ++ ">"

end VariableUse

/-! ## Stack accesses -/

/-- An instruction that touches a stack variable. -/
structure StackUse where
  operand : Option UInt32
  type : Ty
  name : String
  var : Variable
  offset : Int64
  size : UInt64

namespace StackUse

/-- The operand number that stands for no operand. -/
def noOperand : UInt32 := 0xffffffff

/-- An access through an operand, if the number stands for one. -/
def build (operand : UInt32) (type : Ty) (name : String) (var : Variable) (offset : Int64)
    (size : UInt64) : StackUse where
  operand := if operand = noOperand then none else some operand
  type := type
  name := name
  var := var
  offset := offset
  size := size

def handles (u : StackUse) : List FunctionHandle :=
  u.var.handles

instance : BEq StackUse where
  beq a b :=
    a.operand == b.operand && a.type == b.type && a.name == b.name && a.var == b.var &&
      a.offset == b.offset && a.size == b.size

instance : Hashed StackUse where
  feed u :=
    feedOption (fun n => [.word32 n]) u.operand ++ feed u.type ++ [.text u.name] ++ feed u.var ++
      [.signed u.offset, .word64 u.size]

/-- How far the access lies from the variable, with its sign; nothing when it does not. -/
def distanceText (u : StackUse) : String :=
  let distance := u.offset.toInt - u.var.location.storage.toInt
  if distance = 0 then ""
  else if distance < 0 then Numeral.signedHex distance
  else "+" ++ Numeral.signedHex distance

def text (u : StackUse) : String :=
  let target := "ref to " ++ u.name ++ u.distanceText ++ ">"
  match u.operand with
  | some n => "<operand " ++ Numeral.decimalNat n.toNat ++ " " ++ target
  | none => "<" ++ target

end StackUse

/-! ## Parameters -/

/-- The parameters of a function, with a confidence. -/
structure ParameterList where
  vars : List Variable
  confidence : UInt8 := maxConfidence

namespace ParameterList

/-- The same parameters with another confidence. -/
def withConfidence (p : ParameterList) (confidence : UInt8) : ParameterList :=
  { p with confidence }

def handles (p : ParameterList) : List FunctionHandle :=
  p.vars.flatMap Variable.handles

instance : BEq ParameterList where
  beq a b := a.vars == b.vars && a.confidence == b.confidence

instance : Hashed ParameterList where
  feed p := feedList feed p.vars ++ [.byte p.confidence]

end ParameterList

/-! ## Hints -/

/-- A value set that the user gives for a variable from some place on. -/
structure UserValue where
  var : Variable
  site : Site
  value : ValueSet

namespace UserValue

def handles (u : UserValue) : List FunctionHandle :=
  u.var.handles

instance : BEq UserValue where
  beq a b := a.var == b.var && a.site == b.site && a.value == b.value

/-- The text of a hint whose variable is shown as `shown`. -/
def text (u : UserValue) (shown : String) : String :=
  "<user value for " ++ shown ++ " @ " ++ u.site.text ++ " -> " ++ u.value.text ++ ">"

end UserValue

end ValueLattice
