/-
Objects kept alive by counted handles. A new object starts with one handle; `retain` takes one
more, `release` gives one back, and the object is gone when the last handle is given back.
-/
import ValueLattice.Keyed

namespace ValueLattice

/-- An object and the number of handles to it, of which there is at least one. -/
structure Cell (α : Type) where
  value : α
  references : Nat
  references_pos : 0 < references

/-- The objects alive, by number; `next` is the number of the next new object. -/
structure Heap (α : Type) where
  next : Nat
  cells : Keyed Nat (Cell α)

namespace Heap

variable {α : Type}

def empty : Heap α :=
  ⟨0, Keyed.empty⟩

/-- A new object with one handle, and its number. -/
def alloc (h : Heap α) (a : α) : Nat × Heap α :=
  (h.next, ⟨h.next + 1, h.cells.put h.next ⟨a, 1, Nat.one_pos⟩⟩)

/-- The object of a number, while it is alive. -/
def get? (h : Heap α) (n : Nat) : Option α :=
  (h.cells.get? n).map Cell.value

/-- The number of handles to an object, zero when it is gone. -/
def references (h : Heap α) (n : Nat) : Nat :=
  match h.cells.get? n with
  | some c => c.references
  | none => 0

def modify (h : Heap α) (n : Nat) (f : α → α) : Heap α :=
  { h with cells := h.cells.modify n fun c => { c with value := f c.value } }

/-- One more handle to an object. -/
def retain (h : Heap α) (n : Nat) : Heap α :=
  { h with cells := h.cells.modify n fun c => ⟨c.value, c.references + 1, Nat.succ_pos _⟩ }

/-- One handle less; the last one takes the object along. -/
def release (h : Heap α) (n : Nat) : Heap α :=
  match h.cells.get? n with
  | none => h
  | some c =>
    if more : 1 < c.references then
      { h with cells := h.cells.put n ⟨c.value, c.references - 1, by omega⟩ }
    else { h with cells := h.cells.erase n }

def retainAll (h : Heap α) (ns : List Nat) : Heap α :=
  ns.foldl retain h

def releaseAll (h : Heap α) (ns : List Nat) : Heap α :=
  ns.foldl release h

/-! ## The counts -/

theorem references_alloc (h : Heap α) (a : α) (m : Nat) :
    (h.alloc a).2.references m = if h.next = m then 1 else h.references m := by
  unfold alloc references
  by_cases same : h.next = m <;> simp [Keyed.get?_put, same]

theorem references_retain (h : Heap α) (n m : Nat) :
    (h.retain n).references m =
      h.references m + if n = m ∧ 0 < h.references m then 1 else 0 := by
  unfold retain references
  simp only [Keyed.get?_modify]
  by_cases same : n = m
  · subst same
    cases hc : h.cells.get? n with
    | none => simp
    | some c => simp [c.references_pos]
  · simp [same]

theorem references_release (h : Heap α) (n m : Nat) :
    (h.release n).references m = h.references m - if n = m then 1 else 0 := by
  unfold release references
  cases hc : h.cells.get? n with
  | none =>
    by_cases same : n = m
    · subst same; simp [hc]
    · simp [same]
  | some c =>
    by_cases same : n = m
    · subst same
      by_cases more : 1 < c.references
      · simp [more, Keyed.get?_put, hc]
      · have := c.references_pos
        simp only [more, dite_false, Keyed.get?_erase, hc, if_true]
        omega
    · by_cases more : 1 < c.references
      · simp [more, Keyed.get?_put, same]
      · simp [more, Keyed.get?_erase, same]

end Heap

end ValueLattice
