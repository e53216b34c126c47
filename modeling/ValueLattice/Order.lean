/-
Comparisons of optional values, and sorting by a comparison.
-/

namespace ValueLattice

variable {α : Type}

/-- Optional values in the order of `cmp`, a missing one first. -/
def orderOption (cmp : α → α → Ordering) : Option α → Option α → Ordering
  | none, none => .eq
  | none, some _ => .lt
  | some _, none => .gt
  | some a, some b => cmp a b

/-- The items in ascending order, items that compare equal in the order in which they come. -/
def sortBy (cmp : α → α → Ordering) (xs : List α) : List α :=
  xs.mergeSort fun a b => (cmp a b).isLE

end ValueLattice
