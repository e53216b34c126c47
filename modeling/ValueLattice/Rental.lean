/-
Rented arrays. A tracker counts the arrays that were rented out through it and have not come back;
it can be shared by several lenders.
-/
import ValueLattice.Keyed

namespace ValueLattice

/-- Counts of rented arrays, by the number of their tracker; `next` is the number of the next new
tracker. -/
structure Trackers where
  next : Nat := 0
  counts : Keyed Nat Int := Keyed.empty

namespace Trackers

/-- The number of arrays that are out. -/
def outstanding (t : Trackers) (n : Nat) : Int :=
  (t.counts.get? n).getD 0

/-- A new tracker, through which nothing was rented out. -/
def new (t : Trackers) : Nat × Trackers :=
  (t.next, { t with next := t.next + 1 })

/-- One array more is out. -/
def rentOut (t : Trackers) (n : Nat) : Trackers :=
  { t with counts := t.counts.put n (t.outstanding n + 1) }

/-- One array came back. -/
def takeBack (t : Trackers) (n : Nat) : Trackers :=
  { t with counts := t.counts.put n (t.outstanding n - 1) }

theorem outstanding_rentOut (t : Trackers) (n m : Nat) :
    (t.rentOut n).outstanding m = t.outstanding m + if n = m then 1 else 0 := by
  unfold rentOut outstanding
  rw [Keyed.get?_put]
  by_cases h : n = m
  · subst h; simp
  · simp [h]

theorem outstanding_takeBack (t : Trackers) (n m : Nat) :
    (t.takeBack n).outstanding m = t.outstanding m - if n = m then 1 else 0 := by
  unfold takeBack outstanding
  rw [Keyed.get?_put]
  by_cases h : n = m
  · subst h; simp
  · simp [h]

end Trackers

end ValueLattice
