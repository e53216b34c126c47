/-
Finite maps as lists of rows, one row a key, in the order in which the keys came. `put` sets the
value of a key and `erase` removes the row; `get?` is the view through which both are described.
-/

namespace ValueLattice

section Rows

variable {κ α : Type} [DecidableEq κ]

/-- The rows with `a` as the value of `k`: in the place of the first row of `k`, or at the end. -/
def putRow (k : κ) (a : α) : List (κ × α) → List (κ × α)
  | [] => [(k, a)]
  | r :: rs => if r.1 = k then (k, a) :: rs else r :: putRow k a rs

theorem mem_keys_putRow {k k' : κ} {a : α} {rs : List (κ × α)} :
    k' ∈ (putRow k a rs).map Prod.fst ↔ k' = k ∨ k' ∈ rs.map Prod.fst := by
  induction rs with
  | nil => simp [putRow]
  | cons r rs ih =>
    unfold putRow
    split
    · next h => simp [h]
    · rw [List.map_cons, List.mem_cons, ih, List.map_cons, List.mem_cons]
      constructor
      · rintro (h | h | h) <;> simp [h]
      · rintro (h | h | h) <;> simp [h]

theorem nodup_keys_putRow {k : κ} {a : α} {rs : List (κ × α)} (h : (rs.map Prod.fst).Nodup) :
    ((putRow k a rs).map Prod.fst).Nodup := by
  induction rs with
  | nil => simp [putRow]
  | cons r rs ih =>
    rw [List.map_cons, List.nodup_cons] at h
    unfold putRow
    split
    · next hk => rw [List.map_cons, List.nodup_cons, ← hk]; exact h
    · next hk =>
      rw [List.map_cons, List.nodup_cons, mem_keys_putRow]
      exact ⟨fun hm => hm.elim hk h.1, ih h.2⟩

end Rows

/-- Rows under keys, no two under the same key. -/
structure Keyed (κ α : Type) where
  rows : List (κ × α)
  distinct : (rows.map Prod.fst).Nodup

namespace Keyed

variable {κ α : Type} [DecidableEq κ]

def empty : Keyed κ α :=
  ⟨[], List.nodup_nil⟩

/-- The value of a key. -/
def get? (m : Keyed κ α) (k : κ) : Option α :=
  (m.rows.find? fun r => r.1 = k).map Prod.snd

/-- The map with `a` as the value of `k`. -/
def put (m : Keyed κ α) (k : κ) (a : α) : Keyed κ α :=
  ⟨putRow k a m.rows, nodup_keys_putRow m.distinct⟩

/-- The map without the row of a key. -/
def erase (m : Keyed κ α) (k : κ) : Keyed κ α where
  rows := m.rows.filter fun r => r.1 ≠ k
  distinct := m.distinct.sublist (List.filter_sublist.map _)

/-- The map with the value of a key, if it has one, changed by `f`. -/
def modify (m : Keyed κ α) (k : κ) (f : α → α) : Keyed κ α :=
  match m.get? k with
  | some a => m.put k (f a)
  | none => m

/-! ## The view -/

theorem get?_put (m : Keyed κ α) (k k' : κ) (a : α) :
    (m.put k a).get? k' = if k = k' then some a else m.get? k' := by
  have rows : ∀ rs : List (κ × α), ((putRow k a rs).find? fun r => r.1 = k').map Prod.snd =
      if k = k' then some a else (rs.find? fun r => r.1 = k').map Prod.snd := by
    intro rs
    induction rs with
    | nil => by_cases h : k = k' <;> simp [putRow, h]
    | cons r rs ih =>
      by_cases hr : r.1 = k
      · by_cases h : k = k' <;> simp [putRow, hr, h]
      · rw [putRow, if_neg hr]
        by_cases h' : r.1 = k'
        · have : k ≠ k' := fun h => hr (h'.trans h.symm)
          simp [h', this]
        · simp only [List.find?_cons, h', decide_false, ih]
  exact rows m.rows

theorem get?_erase (m : Keyed κ α) (k k' : κ) :
    (m.erase k).get? k' = if k = k' then none else m.get? k' := by
  have rows : ∀ rs : List (κ × α), ((rs.filter fun r => r.1 ≠ k).find? fun r => r.1 = k') =
      if k = k' then none else rs.find? fun r => r.1 = k' := by
    intro rs
    induction rs with
    | nil => simp
    | cons r rs ih =>
      by_cases hr : r.1 = k
      · by_cases h : k = k'
        · simp [hr, h]
        · simpa [hr, h] using ih
      · by_cases h' : r.1 = k'
        · have : k' ≠ k := fun h => hr (h'.trans h)
          simp [h', this, this.symm]
        · simpa [hr, h'] using ih
  unfold get? erase
  rw [rows]
  split <;> rfl

theorem get?_modify (m : Keyed κ α) (k k' : κ) (f : α → α) :
    (m.modify k f).get? k' = if k = k' then (m.get? k').map f else m.get? k' := by
  unfold modify
  split
  · next a ha =>
    rw [get?_put]
    by_cases h : k = k'
    · subst h; simp [ha]
    · simp [h]
  · next ha =>
    by_cases h : k = k'
    · subst h; simp [ha]
    · simp [h]

end Keyed

end ValueLattice
