/-
Finite sets of signed words, kept in ascending order.
-/
import ValueLattice.Hashing

namespace ValueLattice

/-- The list with `v` put before its first greater or equal item; an equal one is kept once. -/
def insertAscending (v : Int64) : List Int64 → List Int64
  | [] => [v]
  | w :: ws => if v < w then v :: w :: ws else if v = w then w :: ws else w :: insertAscending v ws

theorem mem_insertAscending {v w : Int64} {ws : List Int64} :
    w ∈ insertAscending v ws ↔ w = v ∨ w ∈ ws := by
  induction ws with
  | nil => simp [insertAscending]
  | cons u us ih =>
    unfold insertAscending
    by_cases hlt : v < u
    · simp [hlt]
    · by_cases heq : v = u
      · simp [heq]
      · simp only [hlt, heq, if_false, List.mem_cons, ih]
        constructor
        · rintro (h | h | h) <;> simp [h]
        · rintro (h | h | h) <;> simp [h]

theorem pairwise_insertAscending {v : Int64} {ws : List Int64} (h : ws.Pairwise (· < ·)) :
    (insertAscending v ws).Pairwise (· < ·) := by
  induction ws with
  | nil => simp [insertAscending]
  | cons u us ih =>
    obtain ⟨hu, hus⟩ := List.pairwise_cons.1 h
    unfold insertAscending
    by_cases hlt : v < u
    · simp only [hlt, if_true]
      refine List.pairwise_cons.2 ⟨fun w hw => ?_, h⟩
      rcases List.mem_cons.1 hw with rfl | hw
      · exact hlt
      · exact Int64.lt_trans hlt (hu w hw)
    · by_cases heq : v = u
      · simp only [heq, Int64.lt_irrefl, if_false, if_true]
        exact h
      · simp only [hlt, heq, if_false]
        refine List.pairwise_cons.2 ⟨fun w hw => ?_, ih hus⟩
        rcases mem_insertAscending.1 hw with rfl | hw
        · exact Int64.lt_of_le_of_ne (Int64.not_lt.1 hlt) (Ne.symm heq)
        · exact hu w hw

/-- A set of signed words as the list of its members from the smallest to the largest. -/
structure IntSet where
  members : List Int64
  ascending : members.Pairwise (· < ·)
  deriving DecidableEq

namespace IntSet

/-- A set is determined by its members. -/
theorem ext_members {s t : IntSet} (h : s.members = t.members) : s = t := by
  obtain ⟨members, hs⟩ := s
  obtain ⟨members', ht⟩ := t
  obtain rfl : members = members' := h
  rfl

def empty : IntSet :=
  ⟨[], .nil⟩

def insert (s : IntSet) (v : Int64) : IntSet :=
  ⟨insertAscending v s.members, pairwise_insertAscending s.ascending⟩

/-- The set of the values in a list. -/
def ofList (vs : List Int64) : IntSet :=
  vs.foldl insert empty

def contains (s : IntSet) (v : Int64) : Bool :=
  s.members.contains v

def size (s : IntSet) : Nat :=
  s.members.length

instance : Hashed IntSet where
  feed s := feedList (fun v => [.signed v]) s.members

/-! ## The members -/

theorem mem_insert {s : IntSet} {v w : Int64} :
    w ∈ (s.insert v).members ↔ w = v ∨ w ∈ s.members :=
  mem_insertAscending

theorem mem_ofList {vs : List Int64} {w : Int64} : w ∈ (ofList vs).members ↔ w ∈ vs := by
  have inserted : ∀ (vs : List Int64) (s : IntSet),
      w ∈ (vs.foldl insert s).members ↔ w ∈ s.members ∨ w ∈ vs := by
    intro vs
    induction vs with
    | nil => simp
    | cons v vs ih =>
      intro s
      rw [List.foldl_cons, ih, mem_insert, List.mem_cons]
      constructor
      · rintro ((h | h) | h) <;> simp [h]
      · rintro (h | h | h) <;> simp [h]
  exact (inserted vs empty).trans (by simp [empty])

theorem contains_iff {s : IntSet} {v : Int64} : s.contains v = true ↔ v ∈ s.members := by
  simp [contains]

end IntSet

end ValueLattice
