/-
Widths of nested arrays. A product of words is cut where it leaves the width of a word, and whether
it is cut after every factor or once at the end makes no difference: a later zero brings a cut
product down to zero as it does the true one, and any other later factor keeps both of them beyond
the cut. So an array of arrays has the width of all its elements together, cut once, and its name is
that of the element with the counts behind it, in the order in which they were given.
-/
import Mathlib.Algebra.Ring.Nat
import ValueLattice.Ty

namespace ValueLattice

/-! ## Cut products -/

/-- A factor that was cut before its product is cut changes nothing. -/
theorem min_mul_min (a b limit : Nat) : min (min a limit * b) limit = min (a * b) limit := by
  rcases Nat.eq_zero_or_pos b with rfl | hpos
  · simp
  · have hle : limit ≤ limit * b := Nat.le_mul_of_pos_right limit hpos
    calc min (min a limit * b) limit
        = min (min (a * b) (limit * b)) limit := by rw [Nat.mul_min_mul_right]
      _ = min (a * b) (min (limit * b) limit) := Nat.min_assoc _ _ _
      _ = min (a * b) limit := by rw [Nat.min_eq_right hle]

theorem toNat_saturatingMul (a b : UInt64) :
    (saturatingMul a b).toNat = min (a.toNat * b.toNat) (unsignedLimit - 1) := by
  have hlt : min (a.toNat * b.toNat) (unsignedLimit - 1) < UInt64.size :=
    Nat.lt_of_le_of_lt (Nat.min_le_right _ _) (by decide)
  exact UInt64.toNat_ofNat_of_lt' hlt

namespace Ty

/-! ## Arrays of arrays -/

/-- The width of one level, cut, is the first factor of the levels above it. -/
theorem toNat_width_foldl_array (e : Ty) (counts : List UInt64) :
    (counts.foldl array e).width.toNat =
      min (e.width.toNat * (counts.map UInt64.toNat).prod) (unsignedLimit - 1) := by
  induction counts generalizing e with
  | nil =>
    have hword : e.width.toNat ≤ unsignedLimit - 1 := Nat.le_pred_of_lt e.width.toNat_lt
    simp [Nat.min_eq_left hword]
  | cons c counts ih =>
    have hlevel : (e.array c).width.toNat = min (e.width.toNat * c.toNat) (unsignedLimit - 1) :=
      toNat_saturatingMul e.width c
    rw [List.foldl_cons, ih, hlevel, min_mul_min, List.map_cons, List.prod_cons, Nat.mul_assoc]

theorem name_foldl_array (e : Ty) (counts : List UInt64) :
    (counts.foldl array e).name = e.name ++
      String.join (counts.map fun c => "[" ++ Numeral.decimalNat c.toNat ++ "]") := by
  induction counts generalizing e with
  | nil => simp
  | cons c counts ih =>
    have hlevel : (e.array c).name = e.name ++ "[" ++ Numeral.decimalNat c.toNat ++ "]" := rfl
    rw [List.foldl_cons, ih, hlevel, List.map_cons, String.join_cons]
    simp only [String.append_assoc]

/-- Nested arrays are as wide as the product of the element's width and all counts, or as the
largest word if that product does not fit, and each count stands in the name, in order. The width
is the same from whatever level on the product is taken, also where that level was cut. -/
theorem nested_arrays (e : Ty) (counts : List UInt64) :
    (counts.foldl array e).width.toNat =
      min (unsignedLimit - 1) (e.width.toNat * (counts.map UInt64.toNat).prod) ∧
    (counts.foldl array e).name = e.name ++
      String.join (counts.map fun c => "[" ++ Numeral.decimalNat c.toNat ++ "]") ∧
    ∀ level, (counts.foldl array e).width.toNat =
      min (unsignedLimit - 1) (((counts.take level).foldl array e).width.toNat *
        ((counts.drop level).map UInt64.toNat).prod) := by
  refine ⟨?_, name_foldl_array e counts, fun level => ?_⟩
  · rw [toNat_width_foldl_array, Nat.min_comm]
  · have hlevels : counts.foldl array e =
        (counts.drop level).foldl array ((counts.take level).foldl array e) := by
      rw [← List.foldl_append, List.take_append_drop]
    rw [hlevels, toNat_width_foldl_array, Nat.min_comm]

/-- An empty array of arrays that were cut is empty. -/
example : ([0xffffffffffffffff, 2, 0].foldl array (int 2 true)).width = 0 ∧
    ([0xffffffffffffffff, 2].foldl array (int 2 true)).width = 0xffffffffffffffff := by
  decide

end Ty

end ValueLattice
