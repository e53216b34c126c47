/-
The text of a value set. Lists are cut after a number of items that a layout gives, and end in an
ellipsis when items are left out; the plain text of a value set leaves nothing out.
-/
import ValueLattice.ValueSet

namespace ValueLattice

/-- How much of a value is shown. -/
structure Layout where
  maxRanges : Nat
  maxSetValues : Nat
  maxTableEntries : Nat
  showConfidence : Bool
  deriving DecidableEq, Repr

namespace Layout

def standard : Layout :=
  ⟨8, 16, 8, false⟩

/-- The layout whose limits no list in memory exceeds. -/
def unbounded : Layout :=
  ⟨unsignedLimit - 1, unsignedLimit - 1, unsignedLimit - 1, false⟩

end Layout

namespace ValueSet

/-- The first `limit` items, separated by a comma and a blank, and an ellipsis if there are more. -/
def joinLimited (limit : Nat) (items : List String) : String :=
  let shown := Text.joined ", " (items.take limit)
  if limit < items.length then shown ++ ", ..." else shown

/-- The text of a value set in a layout. -/
def format (layout : Layout) : ValueSet → String
  | undetermined => "<undetermined>"
  | entry r => "<entry " ++ r.text ++ ">"
  | constant v => "<const " ++ Numeral.signedHex v.toInt ++ ">"
  | constantPointer v => "<const ptr " ++ Numeral.signedHex v.toInt ++ ">"
  | stackOffset v => "<stack frame offset " ++ Numeral.signedHex v.toInt ++ ">"
  | signedRanges _ ranges =>
    "<signed ranges: [" ++ joinLimited layout.maxRanges (ranges.map Range.text) ++ "]>"
  | unsignedRanges _ ranges =>
    "<unsigned ranges: [" ++ joinLimited layout.maxRanges (ranges.map Range.text) ++ "]>"
  | table t =>
    "<table: " ++ joinLimited layout.maxTableEntries (t.entries.map TableEntry.text) ++ ">"
  | inSet values =>
    "<in set([" ++ joinLimited layout.maxSetValues
      (values.members.map fun v => Numeral.signedHex v.toInt) ++ "])>"
  | notInSet values =>
    "<not in set([" ++ joinLimited layout.maxSetValues
      (values.members.map fun v => Numeral.signedHex v.toInt) ++ "])>"
  | returnAddress => "<return address>"
  | imported v => "<imported address from entry " ++ Numeral.signedHex v.toInt ++ ">"

/-- The full text of a value set. -/
def text (s : ValueSet) : String :=
  s.format .unbounded

end ValueSet

end ValueLattice
