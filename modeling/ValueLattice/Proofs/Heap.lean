/-
The view of a heap through `get?`. Taking a handle changes no object, and neither does giving one
back while others are left; an object that is changed between the two is there afterwards. Handles
taken of an object that is gone do not bring it back, and no number is given out twice. `HeldBy`
accounts for every handle by whoever holds it.
-/
import ValueLattice.Heap

namespace ValueLattice.Heap

variable {α : Type}

theorem get?_alloc (h : Heap α) (a : α) (m : Nat) :
    (h.alloc a).2.get? m = if h.next = m then some a else h.get? m := by
  unfold alloc get?
  rw [Keyed.get?_put]
  split <;> rfl

theorem get?_modify (h : Heap α) (n m : Nat) (f : α → α) :
    (h.modify n f).get? m = if n = m then (h.get? m).map f else h.get? m := by
  unfold modify get?
  rw [Keyed.get?_modify]
  split
  · next same => subst same; simp [Function.comp_def]
  · rfl

/-- An object that is alive is changed, and every other one stays. -/
theorem get?_modify_of_get? {h : Heap α} {n : Nat} {a : α} (ha : h.get? n = some a) (f : α → α)
    (m : Nat) : (h.modify n f).get? m = if n = m then some (f a) else h.get? m := by
  rw [get?_modify]
  split
  · next same => rw [← same, ha]; rfl
  · rfl

@[simp] theorem get?_retain (h : Heap α) (n m : Nat) : (h.retain n).get? m = h.get? m := by
  unfold retain get?
  rw [Keyed.get?_modify]
  split
  · next same => subst same; simp [Function.comp_def]
  · rfl

theorem get?_release (h : Heap α) (n m : Nat) :
    (h.release n).get? m = if n = m ∧ h.references m ≤ 1 then none else h.get? m := by
  unfold release references get?
  rcases hc : h.cells.get? n with _ | c
  · by_cases same : n = m
    · subst same; simp [hc]
    · simp [same]
  · by_cases same : n = m
    · subst same
      by_cases more : 1 < c.references
      · simp [more, Keyed.get?_put, hc]
      · simp [more, Keyed.get?_erase, hc, Nat.not_lt.1 more]
    · by_cases more : 1 < c.references
      · simp [more, Keyed.get?_put, same]
      · simp [more, Keyed.get?_erase, same]

@[simp] theorem references_modify (h : Heap α) (n m : Nat) (f : α → α) :
    (h.modify n f).references m = h.references m := by
  unfold modify references
  rw [Keyed.get?_modify]
  by_cases same : n = m
  · subst same
    rcases h.cells.get? n with _ | c
    · simp
    · simp
  · simp [same]

theorem get?_of_references_eq_zero {h : Heap α} {n : Nat} (hzero : h.references n = 0) :
    h.get? n = none := by
  unfold references at hzero
  unfold get?
  rcases hc : h.cells.get? n with _ | c
  · rfl
  · rw [hc] at hzero
    exact absurd hzero (Nat.pos_iff_ne_zero.1 c.references_pos)

/-- A handle that is taken and given back leaves the objects as they were. -/
theorem get?_release_retain (h : Heap α) (n m : Nat) (f : α → α) :
    (((h.retain n).modify n f).release n).get? m = (h.modify n f).get? m := by
  rw [get?_release, get?_modify, get?_modify, get?_retain, references_modify, references_retain]
  by_cases same : n = m
  · subst same
    by_cases gone : h.references n = 0
    · simp [get?_of_references_eq_zero gone]
    · -- the handle that was taken is a further one, so it is not the last that is given back
      have two : ¬ h.references n + 1 ≤ 1 := by omega
      simp [Nat.pos_iff_ne_zero.2 gone, two]
  · simp [same]

theorem get?_eq_none_iff (h : Heap α) (n : Nat) : h.get? n = none ↔ h.references n = 0 := by
  refine ⟨fun hnone => ?_, get?_of_references_eq_zero⟩
  unfold get? at hnone
  unfold references
  rw [Option.map_eq_none_iff.1 hnone]

/-! ## Several handles -/

theorem next_release (h : Heap α) (n : Nat) : (h.release n).next = h.next := by
  unfold release
  split
  · rfl
  · split <;> rfl

theorem next_retainAll (h : Heap α) (ns : List Nat) : (h.retainAll ns).next = h.next := by
  induction ns generalizing h with
  | nil => rfl
  | cons n ns ih => exact ih (h.retain n)

theorem next_releaseAll (h : Heap α) (ns : List Nat) : (h.releaseAll ns).next = h.next := by
  induction ns generalizing h with
  | nil => rfl
  | cons n ns ih => exact (ih (h.release n)).trans (h.next_release n)

theorem references_retainAll (h : Heap α) (ns : List Nat) (m : Nat) :
    (h.retainAll ns).references m =
      h.references m + if 0 < h.references m then ns.count m else 0 := by
  induction ns generalizing h with
  | nil => simp [retainAll]
  | cons n ns ih =>
    have hcons : h.retainAll (n :: ns) = (h.retain n).retainAll ns := rfl
    rw [hcons, ih, references_retain, List.count_cons]
    by_cases same : n = m
    · by_cases alive : 0 < h.references m
      · simp [same, alive]
        omega
      · simp [same, alive]
    · simp [same]

theorem references_releaseAll (h : Heap α) (ns : List Nat) (m : Nat) :
    (h.releaseAll ns).references m = h.references m - ns.count m := by
  induction ns generalizing h with
  | nil => simp [releaseAll]
  | cons n ns ih =>
    have hcons : h.releaseAll (n :: ns) = (h.release n).releaseAll ns := rfl
    rw [hcons, ih, references_release, List.count_cons]
    by_cases same : n = m
    · simp [same]
      omega
    · simp [same]

theorem get?_retainAll (h : Heap α) (ns : List Nat) (m : Nat) :
    (h.retainAll ns).get? m = h.get? m := by
  induction ns generalizing h with
  | nil => rfl
  | cons n ns ih => exact (ih (h.retain n)).trans (h.get?_retain n m)

/-- An object with handles left is as it was. -/
theorem get?_releaseAll {h : Heap α} {ns : List Nat} {m : Nat}
    (left : 0 < (h.releaseAll ns).references m) : (h.releaseAll ns).get? m = h.get? m := by
  induction ns generalizing h with
  | nil => rfl
  | cons n ns ih =>
    have hcons : h.releaseAll (n :: ns) = (h.release n).releaseAll ns := rfl
    rw [hcons] at left ⊢
    rw [ih left, get?_release, if_neg]
    rintro ⟨rfl, last⟩
    rw [references_releaseAll, references_release, if_pos rfl] at left
    omega

/-! ## Who holds the handles -/

/-- Whether the handles to the objects of a heap are the listed ones, one entry for each handle,
and no number is in use that is still to be given out. -/
structure HeldBy (h : Heap α) (ns : List Nat) : Prop where
  references : ∀ n, h.references n = ns.count n
  fresh : ∀ n, h.next ≤ n → h.references n = 0

theorem heldBy_empty : (empty : Heap α).HeldBy [] :=
  ⟨fun _ => rfl, fun _ _ => rfl⟩

namespace HeldBy

variable {h : Heap α} {ns ms : List Nat} {n : Nat}

theorem perm (hh : h.HeldBy ns) (hperm : ns.Perm ms) : h.HeldBy ms :=
  ⟨fun n => (hh.references n).trans (hperm.count_eq n), hh.fresh⟩

theorem alive (hh : h.HeldBy ns) (hn : n ∈ ns) : 0 < h.references n := by
  rw [hh.references]
  exact List.count_pos_iff.2 hn

theorem lt_next (hh : h.HeldBy ns) (hn : n ∈ ns) : n < h.next := by
  refine Nat.lt_of_not_le fun hle => ?_
  have := hh.alive hn
  rw [hh.fresh n hle] at this
  exact Nat.lt_irrefl 0 this

theorem alloc (hh : h.HeldBy ns) (a : α) : (h.alloc a).2.HeldBy (h.next :: ns) where
  references n := by
    rw [references_alloc, List.count_cons]
    by_cases same : h.next = n
    · -- the number was not in use, so the first handle is the only one
      subst same
      simp [← hh.references, hh.fresh]
    · simp [same, hh.references]
  fresh n hn := by
    replace hn : h.next + 1 ≤ n := hn
    rw [references_alloc, if_neg (by omega), hh.fresh n (by omega)]

theorem modify (hh : h.HeldBy ns) (n : Nat) (f : α → α) : (h.modify n f).HeldBy ns where
  references m := (h.references_modify n m f).trans (hh.references m)
  fresh m hm := (h.references_modify n m f).trans (hh.fresh m hm)

theorem retainAll (hh : h.HeldBy ns) (hms : ∀ m ∈ ms, m ∈ ns) :
    (h.retainAll ms).HeldBy (ms ++ ns) where
  references n := by
    rw [references_retainAll, List.count_append, hh.references]
    by_cases hn : n ∈ ns
    · rw [if_pos (List.count_pos_iff.2 hn), Nat.add_comm]
    · rw [List.count_eq_zero.2 hn, List.count_eq_zero.2 (mt (hms n) hn)]
      simp
  fresh n hn := by
    rw [next_retainAll] at hn
    rw [references_retainAll, hh.fresh n hn]
    simp

theorem releaseAll (hh : h.HeldBy (ms ++ ns)) : (h.releaseAll ms).HeldBy ns where
  references n := by
    rw [references_releaseAll, hh.references, List.count_append, Nat.add_sub_cancel_left]
  fresh n hn := by
    rw [next_releaseAll] at hn
    rw [references_releaseAll, hh.fresh n hn, Nat.zero_sub]

theorem retain (hh : h.HeldBy ns) (hn : n ∈ ns) : (h.retain n).HeldBy (n :: ns) :=
  retainAll hh (fun _ hm => List.mem_singleton.1 hm ▸ hn : ∀ m ∈ [n], m ∈ ns)

theorem release (hh : h.HeldBy (n :: ns)) : (h.release n).HeldBy ns :=
  (releaseAll hh : (h.releaseAll [n]).HeldBy ns)

end HeldBy

end ValueLattice.Heap
