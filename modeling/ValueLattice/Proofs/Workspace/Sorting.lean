/-
Comparing and sorting kept references. A function has one start address in all handles to it that
are held, since only a new function brings a new handle; so the order of the kept uses fits their
equality, and sorting does not depend on the order in which objects are named. Questions leave no
trace.
-/
import ValueLattice.Proofs.Reference.Order
import ValueLattice.Proofs.Workspace.References

namespace ValueLattice

namespace Workspace

variable {w w' : Workspace} {id : String} {object : Kept} {f : FunctionHandle}

/-! ## Where functions start -/

/-- Whether the functions that are held start where `start` tells for their numbers. -/
def StartsAt (start : Nat → UInt64) (w : Workspace) : Prop :=
  ∀ f, w.Holds f → f.start = start f.number

theorem holds_put {e : Engine}
    (h : Holds { engine := e, kept := w.kept.put id object } f) :
    f ∈ object.handles ∨ w.Holds f := by
  obtain ⟨id', object', hget, hf⟩ := h
  rw [Keyed.get?_put] at hget
  split at hget
  · cases hget
    exact .inl hf
  · exact .inr ⟨id', object', hget, hf⟩

theorem holds_drop (h : (w.drop id).2.Holds f) : w.Holds f := by
  unfold Workspace.drop at h
  split at h
  · obtain ⟨id', object', hget, hf⟩ := h
    rw [Keyed.get?_erase] at hget
    split at hget
    · cases hget
    · exact ⟨id', object', hget, hf⟩
  · exact h

/-- After an operation at most one handle is held that was not held before, and that one leads to a
new function. -/
theorem Handling.held (hh : Handling w w') : ∃ new : FunctionHandle,
    new.number = w.engine.next ∧ ∀ f, w'.Holds f → w.Holds f ∨ f = new := by
  cases hh with
  | steady hs => exact ⟨⟨w.engine.next, 0, none⟩, rfl, fun f hf => .inl (hs.held f hf)⟩
  | keep id object held =>
    refine ⟨⟨w.engine.next, 0, none⟩, rfl, fun f hf => .inl ?_⟩
    rcases holds_put hf with hf | hf
    · exact held f hf
    · exact hf
  | keepNew id start arch =>
    refine ⟨⟨w.engine.next, start, arch⟩, rfl, fun f hf => ?_⟩
    rcases holds_put hf with hf | hf
    · exact .inr (List.mem_singleton.1 hf)
    · exact .inl hf
  | drop id => exact ⟨⟨w.engine.next, 0, none⟩, rfl, fun f hf => .inl (holds_drop hf)⟩

theorem Handling.startsAt (hh : Handling w w') (hc : Counted w) {start : Nat → UInt64}
    (hs : w.StartsAt start) : ∃ start', w'.StartsAt start' := by
  obtain ⟨new, hnew, hheld⟩ := hh.held
  refine ⟨Function.update start w.engine.next new.start, fun f hf => ?_⟩
  rcases hheld f hf with hf | rfl
  · -- the number of a function that was held before is in use, so it is not the next one
    have hstart := hs f hf
    obtain ⟨_, _, hget, hmem⟩ := hf
    have hne : f.number ≠ w.engine.next := Nat.ne_of_lt (hc.lt_next (hc.alive hget hmem))
    rw [Function.update_of_ne hne]
    exact hstart
  · rw [hnew, Function.update_self]

theorem exists_startsAt_performAll (hc : Counted w) {start : Nat → UInt64} (hs : w.StartsAt start)
    (ops : List Operation) : ∃ start', (w.performAll ops).StartsAt start' := by
  -- the starts are extended by one function at most in each step
  induction ops generalizing w start with
  | nil => exact ⟨start, hs⟩
  | cons op ops ih =>
    have hop := handling_perform w op
    obtain ⟨start', hs'⟩ := hop.startsAt hc hs
    exact ih (hop.counted hc) hs'

theorem startsAt_empty (start : Nat → UInt64) : StartsAt start {} := by
  rintro f ⟨id, object, hget, -⟩
  cases hget

theorem exists_startsAt (ops : List Operation) :
    ∃ start, (({} : Workspace).performAll ops).StartsAt start :=
  exists_startsAt_performAll counted_empty (startsAt_empty fun _ => 0) ops

theorem StartsAt.use {start : Nat → UInt64} (hs : w.StartsAt start) {u : VariableUse}
    (hu : w.variableUseAt? id = some u) : u.StartsAt start := by
  intro f hf
  exact hs f ⟨id, .variableUse u, variableUseAt?_eq_some_iff.1 hu, hf⟩

end Workspace

/-! ## Questions -/

/-- Whether an operation is a question. -/
def Operation.Asks : Operation → Bool
  | .ask _ => true
  | _ => false

namespace Workspace

variable {w : Workspace}

/-- Comparing, hashing and sorting kept objects leaves no trace. -/
theorem performAll_without_questions (w : Workspace) (ops : List Operation) :
    w.performAll ops = w.performAll (ops.filter fun op => !op.Asks) := by
  induction ops generalizing w with
  | nil => rfl
  | cons op ops ih =>
    cases op with
    | ask q => exact ih w
    | act a => exact ih _
    | clone id of => exact ih _

/-- Kept references are sorted alike, in whatever order they are named. -/
theorem sortIl_perm (w : Workspace) {ids ids' : List String} (hperm : ids.Perm ids') :
    List.Forall₂ (fun i j => ∃ a b, w.ilAt? i = some a ∧ w.ilAt? j = some b ∧ (a == b) = true)
      (w.sortIl ids) (w.sortIl ids') :=
  IlReference.orderedBy.forall₂_sortBy_names (fun _ _ _ _ => IlReference.key_eq_iff.1)
    (fun _ _ _ => trivial) hperm

/-- Kept uses are sorted alike, in whatever order they are named. -/
theorem sortUses_perm {w : Workspace} {start : Nat → UInt64}
    (hstart : ∀ id u, w.variableUseAt? id = some u → u.StartsAt start) {ids ids' : List String}
    (hperm : ids.Perm ids') :
    List.Forall₂ (fun i j => ∃ a b, w.variableUseAt? i = some a ∧ w.variableUseAt? j = some b ∧
      (a == b) = true) (w.sortUses ids) (w.sortUses ids') :=
  VariableUse.orderedBy.forall₂_sortBy_names (fun _ _ ha hb => (VariableUse.key_eq_iff ha hb).1)
    hstart hperm

end Workspace

/-- References and uses of variables are totally ordered in a way that fits their equality and their
hash: references by function, where a missing one comes first and the start decides, architecture
name, address, language and expression number; uses by the identifier and the function of the
variable and then by the reference. For uses a function has to start at one address, as it does in
every workspace; there, the names of kept references and of kept uses are sorted alike, in whatever
order they are given. No question changes the workspace. -/
theorem references_ordered :
    OrderFits IlReference.order (fun _ => True) ∧
    (∀ start : Nat → UInt64, OrderFits VariableUse.order (VariableUse.StartsAt start)) ∧
    (∀ a b : IlReference, a.order b = compare a.key b.key) ∧
    (∀ a b : IlReference, twinFunctions a.function b.function = false →
      a.order b = compare a.place b.place) ∧
    (∀ a b : VariableUse, a.order b = compare a.key b.key) ∧
    (∀ ops : List Operation, ∃ start : Nat → UInt64, ∀ id u,
      (({} : Workspace).performAll ops).variableUseAt? id = some u → u.StartsAt start) ∧
    (∀ (w : Workspace) (ids ids' : List String), ids.Perm ids' →
      (w.sortIl ids).Perm (ids.filter fun id => (w.ilAt? id).isSome) ∧
      List.Forall₂ (fun i j => ∃ a b, w.ilAt? i = some a ∧ w.ilAt? j = some b ∧ (a == b) = true)
        (w.sortIl ids) (w.sortIl ids')) ∧
    (∀ (ops : List Operation) (ids ids' : List String), ids.Perm ids' →
      let w := ({} : Workspace).performAll ops
      (w.sortUses ids).Perm (ids.filter fun id => (w.variableUseAt? id).isSome) ∧
      List.Forall₂ (fun i j => ∃ a b, w.variableUseAt? i = some a ∧ w.variableUseAt? j = some b ∧
        (a == b) = true) (w.sortUses ids) (w.sortUses ids')) ∧
    ∀ (w : Workspace) (ops : List Operation),
      w.performAll ops = w.performAll (ops.filter fun op => !op.Asks) := by
  have hstart (ops : List Operation) : ∃ start : Nat → UInt64, ∀ id u,
      (({} : Workspace).performAll ops).variableUseAt? id = some u → u.StartsAt start := by
    obtain ⟨start, hs⟩ := Workspace.exists_startsAt ops
    exact ⟨start, fun _ _ hu => hs.use hu⟩
  refine ⟨IlReference.orderFits, VariableUse.orderFits, IlReference.orderedBy,
    fun _ _ => IlReference.order_eq_compare_place, VariableUse.orderedBy, hstart,
    fun w ids ids' hperm => ⟨perm_sortBy_names _ _ _, w.sortIl_perm hperm⟩,
    fun ops ids ids' hperm => ?_, Workspace.performAll_without_questions⟩
  obtain ⟨start, hs⟩ := hstart ops
  exact ⟨perm_sortBy_names _ _ _, Workspace.sortUses_perm hs hperm⟩

/-- Two uses of equal variables in one function, one of which has its name looked up already, and a
use in the function before it. -/
theorem references_ordered_uses :
    let early : FunctionHandle := ⟨1, 0x1000, none⟩
    let late : FunctionHandle := ⟨0, 0x2000, none⟩
    let v := Variable.ofLocation (some late) ⟨.stack, 0, -8⟩
    let a : VariableUse := ⟨v, ⟨some late, none, 0x2004, .mediumLevel, 0⟩⟩
    let b : VariableUse := ⟨v.withName "count", ⟨some late, none, 0x2004, .mediumLevel, 0⟩⟩
    let c : VariableUse := ⟨v, ⟨some early, none, 0x2004, .mediumLevel, 0⟩⟩
    let start : Nat → UInt64 := fun n => if n = 0 then 0x2000 else 0x1000
    (∀ u ∈ [a, b, c], u.StartsAt start) ∧ a.order b = .eq ∧ c.order a = .lt ∧ feed a = feed b ∧
      List.Forall₂ (fun u w => (u == w) = true)
        (sortBy VariableUse.order [a, b, c]) (sortBy VariableUse.order [b, c, a]) := by
  intro early late v a b c start
  have hfits := references_ordered.2.1 start
  have hstart : ∀ u ∈ [a, b, c], u.StartsAt start := by decide
  have hequal : (a == b) = true := by decide
  have hperm : ([a] ++ [b, c]).Perm ([b, c] ++ [a]) := List.perm_append_comm
  refine ⟨hstart, ?_, by decide, hfits.feed_eq a b hequal, hfits.sort _ _ hstart hperm⟩
  exact (hfits.eq_iff a b (hstart a (by simp)) (hstart b (by simp))).2 hequal

end ValueLattice
