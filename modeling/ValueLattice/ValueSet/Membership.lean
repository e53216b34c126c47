/-
Membership. `contains` answers whether a number is one of the possible values, for the kinds whose
members are numbers; `Denotes` is the set of numbers that such a value set stands for.
-/
import ValueLattice.ValueSet

namespace ValueLattice.ValueSet

/-- The signed word with a given value, if it fits. -/
def asWord? (x : Int) : Option Int64 :=
  if -signedLimit ≤ x ∧ x < signedLimit then some (Int64.ofInt x) else none

/-- Whether a number is a member of a set of signed words. -/
def memberOf (values : IntSet) (x : Int) : Bool :=
  match asWord? x with
  | some v => values.contains v
  | none => false

/-- Whether `x` is one of the possible values. -/
def contains (s : ValueSet) (x : Int) : Except ValueError Bool :=
  match s with
  | constant v => .ok (v.toInt == x)
  | constantPointer v => .ok (v.toInt == x)
  | signedRanges _ ranges => .ok (ranges.any fun r => r.contains x)
  | unsignedRanges _ ranges => .ok (ranges.any fun r => r.contains x)
  | inSet values => .ok (memberOf values x)
  | notInSet values => .ok (!memberOf values x)
  | other => .error (.notComparable other.kind)

/-- The numbers of a range: those reached from its start in steps, below its end. -/
def RangeDenotes {α : Type} [Bound α] (r : Range α) (x : Int) : Prop :=
  ∃ k : Nat, x = Bound.toInt r.start + k * r.step.toNat ∧ x < Bound.toInt r.stop

/-- The numbers that a value set allows; the kinds that do not talk about numbers allow none. -/
def Denotes : ValueSet → Int → Prop
  | constant v, x => x = v.toInt
  | constantPointer v, x => x = v.toInt
  | signedRanges _ ranges, x => ∃ r ∈ ranges, RangeDenotes r x
  | unsignedRanges _ ranges, x => ∃ r ∈ ranges, RangeDenotes r x
  | inSet values, x => ∃ v ∈ values.members, x = v.toInt
  | notInSet values, x => ¬ ∃ v ∈ values.members, x = v.toInt
  | _, _ => False

/-- The kinds whose members are numbers. -/
def numericKinds : List Kind :=
  [.constant, .constantPointer, .signedRange, .unsignedRange, .inSet, .notInSet]

end ValueLattice.ValueSet
