/-
Writing a value back changes nothing. A new row brings its value in and takes out that of the row it
replaces, and an erased row takes its value along; so it is with weights that are summed over the
values.
-/
import Mathlib.Algebra.GroupWithZero.Nat
import Mathlib.Data.List.Basic
import ValueLattice.Keyed

namespace ValueLattice.Keyed

variable {κ α : Type} [DecidableEq κ] {m : Keyed κ α} {k : κ} {a : α}

/-- A value that is written back leaves the map as it was. -/
theorem put_of_get? (h : m.get? k = some a) : m.put k a = m := by
  have rows : ∀ rs : List (κ × α), (rs.find? fun r => r.1 = k).map Prod.snd = some a →
      putRow k a rs = rs := by
    intro rs
    induction rs with
    | nil => simp
    | cons r rs ih =>
      intro hr
      by_cases hk : r.1 = k
      · obtain rfl : r.2 = a := by simpa [hk] using hr
        simp [putRow, ← hk]
      · rw [putRow, if_neg hk, ih (by simpa [hk] using hr)]
  obtain ⟨rs, distinct⟩ := m
  simp only [put, rows rs h]

theorem modify_of_get? (h : m.get? k = some a) (f : α → α) : m.modify k f = m.put k (f a) := by
  unfold modify
  rw [h]

theorem modify_eq_self {f : α → α} (h : ∀ a, m.get? k = some a → f a = a) : m.modify k f = m := by
  rcases hget : m.get? k with _ | a
  · unfold modify
    rw [hget]
  · rw [modify_of_get? hget, h a hget, put_of_get? hget]

theorem erase_eq_self (h : m.get? k = none) : m.erase k = m := by
  have hrows : m.rows.filter (fun r => r.1 ≠ k) = m.rows := by
    refine List.filter_eq_self.2 fun r hr => decide_eq_true fun hk => ?_
    exact List.find?_eq_none.1 (Option.map_eq_none_iff.1 h) r hr (decide_eq_true hk)
  obtain ⟨rows, distinct⟩ := m
  unfold erase
  congr

/-- The keys are those that have a value. -/
theorem get?_eq_none_iff : m.get? k = none ↔ k ∉ m.rows.map Prod.fst := by
  unfold get?
  rw [Option.map_eq_none_iff, List.find?_eq_none, List.mem_map]
  simp only [decide_eq_true_eq, not_exists, not_and]

/-! ## The values -/

def values (m : Keyed κ α) : List α :=
  m.rows.map Prod.snd

/-- A new value comes in, and the one that it replaces goes out. -/
theorem values_put_perm (m : Keyed κ α) (k : κ) (a : α) :
    ((m.get? k).toList ++ (m.put k a).values).Perm (a :: m.values) := by
  have rows : ∀ rs : List (κ × α),
      (((rs.find? fun r => r.1 = k).map Prod.snd).toList ++
        (putRow k a rs).map Prod.snd).Perm (a :: rs.map Prod.snd) := by
    intro rs
    induction rs with
    | nil => exact .refl _
    | cons r rs ih =>
      by_cases hr : r.1 = k
      · simp only [putRow, hr, if_true, List.find?_cons, decide_true, Option.map_some]
        exact .swap ..
      · simp only [putRow, hr, if_false, List.find?_cons, decide_false, List.map_cons]
        exact List.perm_middle.trans ((ih.cons _).trans (.swap ..))
  exact rows m.rows

theorem values_erase_perm (m : Keyed κ α) (k : κ) :
    ((m.get? k).toList ++ (m.erase k).values).Perm m.values := by
  have rows : ∀ rs : List (κ × α), (rs.map Prod.fst).Nodup →
      (((rs.find? fun r => r.1 = k).map Prod.snd).toList ++
        (rs.filter fun r => r.1 ≠ k).map Prod.snd).Perm (rs.map Prod.snd) := by
    intro rs
    induction rs with
    | nil => exact fun _ => .refl _
    | cons r rs ih =>
      intro distinct
      obtain ⟨hnew, hrest⟩ := List.nodup_cons.1 distinct
      by_cases hr : r.1 = k
      · -- no later row has the key, so nothing else is erased
        have hkeep : rs.filter (fun r => r.1 ≠ k) = rs := by
          refine List.filter_eq_self.2 fun s hs => decide_eq_true fun hk => hnew ?_
          exact hr.trans hk.symm ▸ List.mem_map_of_mem hs
        rw [List.filter_cons_of_neg (by simp [hr]), hkeep, List.find?_cons_of_pos (by simp [hr])]
        exact .refl _
      · rw [List.filter_cons_of_pos (by simp [hr]), List.find?_cons_of_neg (by simp [hr])]
        exact List.perm_middle.trans ((ih hrest).cons _)
  exact rows m.rows m.distinct

theorem mem_values_of_get? (h : m.get? k = some a) : a ∈ m.values := by
  refine (m.values_erase_perm k).subset (List.mem_append_left _ ?_)
  rw [h]
  exact List.mem_cons_self

theorem eq_or_mem_of_mem_values_put {b : α} (hb : b ∈ (m.put k a).values) :
    b = a ∨ b ∈ m.values :=
  List.mem_cons.1 ((m.values_put_perm k a).subset (List.mem_append_right _ hb))

theorem mem_of_mem_values_erase {b : α} (hb : b ∈ (m.erase k).values) : b ∈ m.values :=
  (m.values_erase_perm k).subset (List.mem_append_right _ hb)

/-! ## Weights -/

/-- The weights of all values. -/
def total (m : Keyed κ α) (weight : α → Nat) : Nat :=
  m.rows.foldr (fun r n => weight r.2 + n) 0

omit [DecidableEq κ] in
theorem total_eq_sum (m : Keyed κ α) (weight : α → Nat) :
    m.total weight = (m.values.map weight).sum := by
  unfold total values
  rw [List.map_map, List.sum_eq_foldr, List.foldr_map]
  rfl

theorem total_put (m : Keyed κ α) (k : κ) (a : α) (weight : α → Nat) :
    (m.put k a).total weight + (m.get? k).elim 0 weight = m.total weight + weight a := by
  have hsum := ((m.values_put_perm k a).map weight).sum_nat
  rw [total_eq_sum, total_eq_sum]
  rcases hget : m.get? k with _ | old <;> simp [hget] at hsum ⊢ <;> omega

theorem total_erase (m : Keyed κ α) (k : κ) (weight : α → Nat) :
    (m.erase k).total weight + (m.get? k).elim 0 weight = m.total weight := by
  have hsum := ((m.values_erase_perm k).map weight).sum_nat
  rw [total_eq_sum, total_eq_sum]
  rcases hget : m.get? k with _ | old <;> simp [hget] at hsum ⊢ <;> omega

theorem weight_le_total (weight : α → Nat) (h : m.get? k = some a) : weight a ≤ m.total weight := by
  have := total_erase m k weight
  rw [h, Option.elim_some] at this
  omega

theorem total_modify {f : α → α} {weight : α → Nat}
    (h : ∀ a, m.get? k = some a → weight (f a) = weight a) :
    (m.modify k f).total weight = m.total weight := by
  rcases hget : m.get? k with _ | a
  · rw [modify_eq_self (by simp [hget])]
  · have := total_put m k (f a) weight
    rw [hget, Option.elim_some, h a hget] at this
    rw [modify_of_get? hget]
    omega

end ValueLattice.Keyed
