/-
What a value hands to a hasher, and how many of several values a hash set keeps. A value is
described by the list of words it feeds; two values that feed the same words cannot be told apart
by any hasher, and a hash set keeps one of several values that feed the same words and are equal.
-/

namespace ValueLattice

/-- One write into a hasher. -/
inductive HashWord
  | variant (n : Nat)
  | length (n : Nat)
  | flag (b : Bool)
  | byte (v : UInt8)
  | word32 (v : UInt32)
  | word64 (v : UInt64)
  | signed (v : Int64)
  | handle (number : Nat)
  | text (s : String)
  deriving DecidableEq, Repr

/-- Values that can be put into a hash set. -/
class Hashed (α : Type) where
  feed : α → List HashWord

export Hashed (feed)

/-- A list feeds its length and then its items. -/
def feedList {α : Type} (item : α → List HashWord) (xs : List α) : List HashWord :=
  .length xs.length :: xs.flatMap item

/-- An optional value feeds whether it is there and then itself. -/
def feedOption {α : Type} (item : α → List HashWord) : Option α → List HashWord
  | none => [.variant 0]
  | some a => .variant 1 :: item a

/-- Whether a hash set holding `a` would refuse `b`. -/
def sameInSet {α : Type} [BEq α] [Hashed α] (a b : α) : Bool :=
  feed a == feed b && a == b

/-- The members of a hash set filled with the given values, the latest first. -/
def hashSet {α : Type} [BEq α] [Hashed α] (xs : List α) : List α :=
  xs.foldl (fun kept x => if kept.any (fun k => sameInSet k x) then kept else x :: kept) []

/-- The size of a hash set filled with the given values. -/
def distinctCount {α : Type} [BEq α] [Hashed α] (xs : List α) : Nat :=
  (hashSet xs).length

/-- For each value, with which of the values it is equal. -/
def equalityRows {α : Type} [BEq α] (xs : List α) : List (List Bool) :=
  xs.map fun x => xs.map fun y => x == y

end ValueLattice
