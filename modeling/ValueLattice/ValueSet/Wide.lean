/-
Membership carried out in signed words of 128 bits. There a difference can leave the width and a
divisor can be zero, and either is a fault that leaves no answer.
-/
import ValueLattice.ValueSet.Membership

namespace ValueLattice

/-- Why an operation on words has no result. -/
inductive ArithmeticFault
  | overflow
  | divisionByZero
  deriving DecidableEq, Repr

/-- Signed words of 128 bits. -/
abbrev Wide := BitVec 128

namespace Wide

/-- The word of a number, which is that number if it fits. -/
def ofInt (n : Int) : Wide :=
  BitVec.ofInt 128 n

def sub (a b : Wide) : Except ArithmeticFault Wide :=
  if a.ssubOverflow b then .error .overflow else .ok (a - b)

/-- The remainder of the division that rounds toward zero. -/
def rem (a b : Wide) : Except ArithmeticFault Wide :=
  if b = 0 then .error .divisionByZero
  else if a.sdivOverflow b then .error .overflow
  else .ok (a.srem b)

end Wide

/-- Whether a word lies between the bounds and leaves no remainder by the step; the distance from
the first bound is computed only for words between the bounds. -/
def Range.containsWide {α : Type} [Bound α] (r : Range α) (x : Wide) :
    Except ArithmeticFault Bool :=
  let start := Wide.ofInt (Bound.toInt r.start)
  let stop := Wide.ofInt (Bound.toInt r.stop)
  if start.sle x && x.slt stop then do
    let distance ← Wide.sub x start
    let rest ← Wide.rem distance (Wide.ofInt r.step.toNat)
    return rest == 0
  else
    return false

/-- Whether a word is one of the possible values; only ranges compute anything. -/
def ValueSet.containsWide (s : ValueSet) (x : Wide) :
    Except ArithmeticFault (Except ValueError Bool) :=
  match s with
  | constant v => return .ok (Wide.ofInt v.toInt == x)
  | constantPointer v => return .ok (Wide.ofInt v.toInt == x)
  | signedRanges _ ranges => return .ok (← ranges.anyM fun r => r.containsWide x)
  | unsignedRanges _ ranges => return .ok (← ranges.anyM fun r => r.containsWide x)
  | inSet values => return .ok (memberOf values x.toInt)
  | notInSet values => return .ok (!memberOf values x.toInt)
  | other => return .error (.notComparable other.kind)

end ValueLattice
