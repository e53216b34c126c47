/-
What hashing tells apart. The words of a value are delimited if the value can be told from any text
of words that begins with them; then values that feed the same words are the same, and so are lists
of such values. A hash set of values of which equal ones feed the same words keeps one value of
each class of equal ones.
-/
import ValueLattice.Hashing
import Mathlib.Data.Finset.Card
import Mathlib.Data.Finset.Dedup

namespace ValueLattice

/-! ## Words that end by themselves -/

section Delimited

variable {α : Type} {item : α → List HashWord}

/-- Whether a value and what follows it can be told from the words that they feed together. -/
def Delimited (item : α → List HashWord) : Prop :=
  ∀ ⦃a b : α⦄ ⦃r s : List HashWord⦄, item a ++ r = item b ++ s → a = b ∧ r = s

theorem Delimited.injective (h : Delimited item) {a b : α} (hab : item a = item b) : a = b := by
  refine (h (r := []) (s := []) ?_).1
  rw [hab]

/-- The items of two lists of one length. -/
theorem Delimited.flatMap (h : Delimited item) {xs ys : List α} {r s : List HashWord}
    (hlength : xs.length = ys.length) (hwords : xs.flatMap item ++ r = ys.flatMap item ++ s) :
    xs = ys ∧ r = s := by
  induction xs generalizing ys with
  | nil =>
    obtain rfl := List.eq_nil_of_length_eq_zero hlength.symm
    exact ⟨rfl, hwords⟩
  | cons x xs ih =>
    cases ys with
    | nil => cases hlength
    | cons y ys =>
      rw [List.flatMap_cons, List.flatMap_cons, List.append_assoc, List.append_assoc] at hwords
      obtain ⟨rfl, hrest⟩ := h hwords
      obtain ⟨rfl, rfl⟩ := ih (Nat.succ.inj hlength) hrest
      exact ⟨rfl, rfl⟩

/-- The length in front of a list says where its items end. -/
theorem Delimited.feedList (h : Delimited item) : Delimited (feedList item) := by
  intro xs ys r s hwords
  obtain ⟨hlength, hitems⟩ := List.cons.inj hwords
  exact h.flatMap (HashWord.length.inj hlength) hitems

end Delimited

/-! ## Hash sets -/

section HashSet

variable {α κ : Type} [BEq α] [Hashed α] {cls : α → κ}

/-- A hash set filled with further values keeps one value of each class. -/
theorem hashSet_foldl (h : ∀ a b, sameInSet a b = true ↔ cls a = cls b) (xs kept : List α)
    (hkept : (kept.map cls).Nodup) :
    let filled := xs.foldl
      (fun kept x => if kept.any (fun k => sameInSet k x) then kept else x :: kept) kept
    (filled.map cls).Nodup ∧ ∀ c, c ∈ filled.map cls ↔ c ∈ kept.map cls ∨ c ∈ xs.map cls := by
  induction xs generalizing kept with
  | nil => exact ⟨hkept, by simp⟩
  | cons x xs ih =>
    have hany : kept.any (fun k => sameInSet k x) = true ↔ cls x ∈ kept.map cls := by
      simp only [List.any_eq_true, List.mem_map, h]
    rw [List.foldl_cons]
    by_cases hmem : cls x ∈ kept.map cls
    · -- the class of `x` is there already
      rw [if_pos (hany.2 hmem)]
      obtain ⟨hnodup, hclasses⟩ := ih kept hkept
      refine ⟨hnodup, fun c => ?_⟩
      rw [hclasses, List.map_cons, List.mem_cons]
      constructor
      · rintro (hc | hc) <;> simp [hc]
      · rintro (hc | rfl | hc)
        · exact .inl hc
        · exact .inl hmem
        · exact .inr hc
    · rw [if_neg (mt hany.1 hmem)]
      obtain ⟨hnodup, hclasses⟩ := ih (x :: kept) (List.nodup_cons.2 ⟨hmem, hkept⟩)
      refine ⟨hnodup, fun c => ?_⟩
      rw [hclasses, List.map_cons, List.mem_cons, List.map_cons, List.mem_cons]
      constructor
      · rintro ((hc | hc) | hc) <;> simp [hc]
      · rintro (hc | hc | hc) <;> simp [hc]

theorem hashSet_classes (h : ∀ a b, sameInSet a b = true ↔ cls a = cls b) (xs : List α) :
    ((hashSet xs).map cls).Nodup ∧ ∀ c, c ∈ (hashSet xs).map cls ↔ c ∈ xs.map cls := by
  obtain ⟨hnodup, hclasses⟩ := hashSet_foldl h xs [] List.nodup_nil
  exact ⟨hnodup, fun c => (hclasses c).trans (by simp)⟩

/-- The size of a hash set is the number of classes of the values it is filled with. -/
theorem distinctCount_eq_card [DecidableEq κ] (h : ∀ a b, sameInSet a b = true ↔ cls a = cls b)
    (xs : List α) : distinctCount xs = (xs.map cls).toFinset.card := by
  obtain ⟨hnodup, hclasses⟩ := hashSet_classes h xs
  have hsame : (xs.map cls).toFinset = ((hashSet xs).map cls).toFinset := by
    ext c
    rw [List.mem_toFinset, List.mem_toFinset, hclasses]
  rw [hsame, List.toFinset_card_of_nodup hnodup, List.length_map]
  rfl

end HashSet

end ValueLattice
