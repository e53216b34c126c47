/-
Comparisons by a key in a linear order. Such a comparison is a total order; whatever is sorted by it
comes out with its keys in ascending order, and so it does not matter to the keys in which order
it was given.
-/
import Mathlib.Data.List.Forall2
import Mathlib.Order.Lattice.Nat
import Mathlib.Data.Prod.Lex
import Mathlib.Data.String.Basic
import Mathlib.Order.Compare
import Mathlib.Order.WithBot
import ValueLattice.Reference.Il

namespace ValueLattice

variable {α β κ κ' : Type} {cmp : α → α → Ordering}

/-- What makes a comparison a total order. -/
structure TotalOrder (cmp : α → α → Ordering) : Prop where
  antisymm : ∀ a b, cmp b a = (cmp a b).swap
  trans : ∀ a b c, (cmp a b).isLE = true → (cmp b c).isLE = true → (cmp a c).isLE = true
  total : ∀ a b, (cmp a b).isLE = true ∨ (cmp b a).isLE = true

/-- What makes a comparison fit the equality and the hash of a type: it is a total order that finds
no difference exactly between equal items, equal items are hashed alike, and sorting reorders the
items in a way that depends on them alone. -/
structure OrderFits [BEq α] [Hashed α] (cmp : α → α → Ordering) (item : α → Prop) : Prop where
  order : TotalOrder cmp
  eq_iff : ∀ a b, item a → item b → (cmp a b = .eq ↔ (a == b) = true)
  feed_eq : ∀ a b : α, (a == b) = true → feed a = feed b
  perm : ∀ xs, (sortBy cmp xs).Perm xs
  ascending : ∀ xs, (sortBy cmp xs).Pairwise fun a b => (cmp a b).isLE = true
  sort : ∀ xs ys, (∀ a ∈ xs, item a) → xs.Perm ys →
    List.Forall₂ (fun a b => (a == b) = true) (sortBy cmp xs) (sortBy cmp ys)

/-- Sorting by the items that they name leaves the names that name any. -/
theorem perm_sortBy_names (cmp : α → α → Ordering) (get? : String → Option α)
    (ids : List String) :
    let rows := ids.filterMap fun id => (get? id).map fun a => (id, a)
    ((sortBy (fun a b => cmp a.2 b.2) rows).map Prod.fst).Perm
      (ids.filter fun id => (get? id).isSome) := by
  intro rows
  have hnames : rows.map Prod.fst = ids.filter fun id => (get? id).isSome := by
    induction ids with
    | nil => rfl
    | cons id ids ih =>
      cases hid : get? id with
      | none => simpa [rows, hid] using ih
      | some a => simpa [rows, hid] using ih
  exact hnames ▸ (List.mergeSort_perm rows _).map Prod.fst

/-- The key of an optional item, the least of all if there is none. -/
def keyOrLeast (key : α → κ) : Option α → WithBot κ
  | none => ⊥
  | some a => key a

theorem keyOrLeast_eq_iff {key : α → κ} {o p : Option α} :
    keyOrLeast key o = keyOrLeast key p ↔ o.map key = p.map key := by
  cases o <;> cases p <;> simp [keyOrLeast]

variable [LinearOrder κ] [LinearOrder κ'] {key : α → κ} {key' : α → κ'}

/-- Whether a comparison compares keys. -/
def OrderedBy (cmp : α → α → Ordering) (key : α → κ) : Prop :=
  ∀ a b, cmp a b = compare (key a) (key b)

namespace OrderedBy

/-! ## Building -/

theorem nat : OrderedBy (compare : Nat → Nat → Ordering) id :=
  fun _ _ => rfl

theorem string : OrderedBy (compare : String → String → Ordering) id :=
  fun _ _ => rfl

theorem word : OrderedBy (compare : UInt64 → UInt64 → Ordering) UInt64.toNat :=
  fun a b => (compare_of_injective_eq_compareOfLessAndEq a b UInt64.toNat
    fun _ _ => UInt64.toNat_inj.1).symm

theorem on (h : OrderedBy cmp key) (f : β → α) :
    OrderedBy (fun a b => cmp (f a) (f b)) fun b => key (f b) :=
  fun a b => h (f a) (f b)

/-- A second comparison decides where the first finds no difference. -/
theorem andThen {cmp' : α → α → Ordering} (h : OrderedBy cmp key) (h' : OrderedBy cmp' key') :
    OrderedBy (fun a b => (cmp a b).then (cmp' a b)) fun a => toLex (key a, key' a) := by
  intro a b
  dsimp only
  rw [Prod.Lex.compare_def, h a b, h' a b]
  rfl

/-- What is missing comes first. -/
theorem option (h : OrderedBy cmp key) :
    OrderedBy (orderOption cmp) (keyOrLeast key) := by
  intro a b
  cases a with
  | none => cases b with
    | none => exact (compare_eq_iff_eq.2 rfl).symm
    | some b => exact (compare_lt_iff_lt.2 (WithBot.bot_lt_coe (key b))).symm
  | some a => cases b with
    | none => exact (compare_gt_iff_gt.2 (WithBot.bot_lt_coe (key a))).symm
    | some b =>
      have hcompare : compare (key a : WithBot κ) (key b) = compare (key a) (key b) := by
        rcases lt_trichotomy (key a) (key b) with hlt | heq | hgt
        · rw [compare_lt_iff_lt.2 hlt, compare_lt_iff_lt.2 (WithBot.coe_lt_coe.2 hlt)]
        · rw [heq, compare_eq_iff_eq.2 rfl, compare_eq_iff_eq.2 rfl]
        · rw [compare_gt_iff_gt.2 hgt, compare_gt_iff_gt.2 (WithBot.coe_lt_coe.2 hgt)]
      exact (h a b).trans hcompare.symm

/-! ## Comparing and sorting -/

theorem eq_iff (h : OrderedBy cmp key) {a b : α} : cmp a b = .eq ↔ key a = key b := by
  rw [h a b, compare_eq_iff_eq]

theorem isLE_iff (h : OrderedBy cmp key) {a b : α} : (cmp a b).isLE = true ↔ key a ≤ key b := by
  rw [h a b, Ordering.isLE_iff_ne_gt]
  exact compare_le_iff_le

theorem totalOrder (h : OrderedBy cmp key) : TotalOrder cmp where
  antisymm a b := by
    rw [h a b, h b a]
    exact Std.OrientedOrd.eq_swap
  trans a b c hab hbc := h.isLE_iff.2 (le_trans (h.isLE_iff.1 hab) (h.isLE_iff.1 hbc))
  total a b := (le_total (key a) (key b)).imp h.isLE_iff.2 h.isLE_iff.2

theorem pairwise_sortBy (h : OrderedBy cmp key) (xs : List α) :
    (sortBy cmp xs).Pairwise fun a b => (cmp a b).isLE = true :=
  List.pairwise_mergeSort h.totalOrder.trans
    (fun a b => Bool.or_eq_true_iff.2 (h.totalOrder.total a b)) xs

/-- Lists of the same items are sorted into lists with the same keys. -/
theorem map_sortBy_eq (h : OrderedBy cmp key) {xs ys : List α} (hperm : xs.Perm ys) :
    (sortBy cmp xs).map key = (sortBy cmp ys).map key := by
  have hitems : (sortBy cmp xs).Perm (sortBy cmp ys) :=
    (List.mergeSort_perm xs _).trans (hperm.trans (List.mergeSort_perm ys _).symm)
  -- equal items need not be the same, but the keys are determined by their ascending order
  have hsorted (zs : List α) : ((sortBy cmp zs).map key).Pairwise (· ≤ ·) :=
    List.pairwise_map.2 ((h.pairwise_sortBy zs).imp h.isLE_iff.1)
  exact List.Perm.eq_of_pairwise (fun _ _ _ _ => le_antisymm) (hsorted xs) (hsorted ys)
    (hitems.map key)

/-- Sorted lists of the same items agree item by item in whatever the keys decide. -/
theorem forall₂_sortBy (h : OrderedBy cmp key) {item : α → Prop} {r : α → α → Prop}
    (hr : ∀ a b, item a → item b → key a = key b → r a b) {xs ys : List α}
    (hxs : ∀ a ∈ xs, item a) (hperm : xs.Perm ys) :
    List.Forall₂ r (sortBy cmp xs) (sortBy cmp ys) := by
  have hkeys := h.map_sortBy_eq hperm
  have hleft : ∀ a ∈ sortBy cmp xs, item a := fun a ha => hxs a (List.mem_mergeSort.1 ha)
  have hright : ∀ a ∈ sortBy cmp ys, item a := fun a ha =>
    hxs a (hperm.mem_iff.2 (List.mem_mergeSort.1 ha))
  generalize sortBy cmp xs = left at hkeys hleft
  generalize sortBy cmp ys = right at hkeys hright
  induction left generalizing right with
  | nil =>
    obtain rfl := List.map_eq_nil_iff.1 hkeys.symm
    exact .nil
  | cons a left ih =>
    cases right with
    | nil => cases hkeys
    | cons b right =>
      obtain ⟨hkey, hkeys⟩ := List.cons.inj hkeys
      obtain ⟨ha, hleft⟩ := List.forall_mem_cons.1 hleft
      obtain ⟨hb, hright⟩ := List.forall_mem_cons.1 hright
      exact .cons (hr a b ha hb hkey) (ih hleft right hkeys hright)

/-- The names of items, sorted by the items that they name. -/
theorem forall₂_sortBy_names (h : OrderedBy cmp key) {item : α → Prop} {r : α → α → Prop}
    (hr : ∀ a b, item a → item b → key a = key b → r a b) {get? : String → Option α}
    (hitems : ∀ id a, get? id = some a → item a) {ids ids' : List String}
    (hperm : ids.Perm ids') :
    let rows (ids : List String) := ids.filterMap fun id => (get? id).map fun a => (id, a)
    let names (ids : List String) := (sortBy (fun a b => cmp a.2 b.2) (rows ids)).map Prod.fst
    List.Forall₂ (fun i j => ∃ a b, get? i = some a ∧ get? j = some b ∧ r a b)
      (names ids) (names ids') := by
  intro rows names
  have hrow : ∀ row ∈ rows ids, get? row.1 = some row.2 := by
    intro row hmem
    obtain ⟨id, -, hid⟩ := List.mem_filterMap.1 hmem
    obtain ⟨a, ha, rfl⟩ := Option.map_eq_some_iff.1 hid
    exact ha
  refine List.forall₂_map_left_iff.2 (List.forall₂_map_right_iff.2 ?_)
  refine (h.on Prod.snd).forall₂_sortBy (fun x y hx hy hkey => ?_) hrow (hperm.filterMap _)
  exact ⟨x.2, y.2, hx, hy, hr _ _ (hitems _ _ hx) (hitems _ _ hy) hkey⟩

theorem fits [BEq α] [Hashed α] (h : OrderedBy cmp key) {item : α → Prop}
    (hbeq : ∀ a b, item a → item b → (key a = key b ↔ (a == b) = true))
    (hfeed : ∀ a b : α, (a == b) = true → feed a = feed b) : OrderFits cmp item where
  order := h.totalOrder
  eq_iff a b ha hb := h.eq_iff.trans (hbeq a b ha hb)
  feed_eq := hfeed
  perm xs := List.mergeSort_perm xs _
  ascending := h.pairwise_sortBy
  sort _ _ := h.forall₂_sortBy fun a b ha hb => (hbeq a b ha hb).1

end OrderedBy

end ValueLattice
