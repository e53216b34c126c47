/-
The algebra of merging. A merge puts the rows of the other store behind those that are there, in
their order, and leaves out exactly the rows whose key is taken. So the empty store is neutral on
either side, a second merge of a store changes nothing, and stores may be put together before they
are merged. A session whose contents are merged into another one stays as it is, also if the other
one is itself.
-/
import ValueLattice.Proofs.DebugInfo.Reordering

namespace ValueLattice

namespace Store

/-! ## Laws -/

theorem merge_empty (s : Store) : s.merge {} = s := rfl

/-- Nothing is taken in an empty store. -/
theorem empty_merge {s : Store} (hs : s.WellFormed) : ({} : Store).merge s = s := by
  unfold merge
  rw [Contribution.nil_appendAll _ hs.types, Contribution.nil_appendAll _ hs.functions,
    Contribution.nil_appendAll _ hs.data]

theorem covers_self (s : Store) : s.Covers s :=
  ⟨fun _ hc => List.mem_map_of_mem hc, fun _ hc => List.mem_map_of_mem hc,
    fun _ hc => List.mem_map_of_mem hc⟩

theorem merge_self (s : Store) : s.merge s = s :=
  s.covers_self.merge_eq

theorem merge_merge_self (s t : Store) : (s.merge t).merge t = s.merge t :=
  (s.covers_merge t).merge_eq

theorem merge_assoc (s t u : Store) : (s.merge t).merge u = s.merge (t.merge u) := by
  unfold merge
  rw [Contribution.appendAll_appendAll, Contribution.appendAll_appendAll,
    Contribution.appendAll_appendAll]

end Store

/-! ## Sessions -/

namespace Host

variable {h : Host} {n m : Nat} {target source : DebugSession}

theorem get?_sessions_mergeInto (h : Host) (n m : Nat) (incoming : Store) :
    (h.mergeInto n incoming).sessions.get? m =
      if n = m then (h.sessions.get? m).map fun s => { s with store := s.store.merge incoming }
      else h.sessions.get? m :=
  h.sessions.get?_modify n m _

theorem get?_sessions_mergeInto_target (htarget : h.sessions.get? n = some target)
    (incoming : Store) : (h.mergeInto n incoming).sessions.get? n =
      some { target with store := target.store.merge incoming } :=
  (Heap.get?_modify_of_get? htarget _ n).trans (if_pos rfl)

/-- A session stays as it is when its contents are merged into a session, whichever that is. -/
theorem get?_sessions_mergeInto_source (hsource : h.sessions.get? m = some source) (n : Nat) :
    (h.mergeInto n source.store).sessions.get? m = some source := by
  rw [get?_sessions_mergeInto, hsource]
  split
  · rw [Option.map_some, Store.merge_self]
  · rfl

end Host

namespace Store

/-- A merge keeps what is there and puts behind it, in their order, exactly the rows of the other
store that have a new key. The empty store is neutral, merging is idempotent and associative, and
a session whose contents are merged into another one, or into itself, is as it was. -/
theorem merge_leftBiased (s t u : Store) :
    (∀ contributor, Reachable contributor t →
      (s.merge t).types = s.types ++ t.types.filter (fun c =>
        (c.parser, c.item.name) ∉ s.types.map fun d => (d.parser, d.item.name)) ∧
      (s.merge t).functions = s.functions ++ t.functions.filter (fun c =>
        (c.parser, c.item.address) ∉ s.functions.map fun d => (d.parser, d.item.address)) ∧
      (s.merge t).data = s.data ++ t.data.filter (fun c =>
        (c.parser, c.item.address) ∉ s.data.map fun d => (d.parser, d.item.address)) ∧
      ({} : Store).merge t = t) ∧
    s.merge {} = s ∧ s.merge s = s ∧ (s.merge t).merge t = s.merge t ∧
    (s.merge t).merge u = s.merge (t.merge u) ∧
    ∀ (h : Host) n m target source,
      h.sessions.get? n = some target → h.sessions.get? m = some source →
      (h.mergeInto n source.store).sessions.get? n =
        some { target with store := target.store.merge source.store } ∧
      (h.mergeInto n source.store).sessions.get? m = some source := by
  refine ⟨fun contributor hreach => ?_, s.merge_empty, s.merge_self, s.merge_merge_self t,
    s.merge_assoc t u, fun h n m target source htarget hsource =>
      ⟨Host.get?_sessions_mergeInto_target htarget _,
        Host.get?_sessions_mergeInto_source hsource n⟩⟩
  have ht := reachable_wellFormed hreach
  exact ⟨Contribution.appendAll_eq_append_filter NamedType.name ht.types _,
    Contribution.appendAll_eq_append_filter FunctionInfo.address ht.functions _,
    Contribution.appendAll_eq_append_filter DataVariable.address ht.data _, empty_merge ht⟩

/-- The session of a parser that is run again: the type it has is left out and the new one comes
last, behind the one of the same name that is the caller's. -/
theorem merge_leftBiased_again :
    Reachable "dwarf"
      { types := [⟨"dwarf", "size_t", .int 4 false⟩, ⟨"dwarf", "int", .int 4 true⟩] } ∧
    (merge { types := [⟨"user", "int", .int 8 true⟩, ⟨"dwarf", "size_t", .int 8 false⟩] }
      { types := [⟨"dwarf", "size_t", .int 4 false⟩, ⟨"dwarf", "int", .int 4 true⟩] }).types =
      [⟨"user", "int", .int 8 true⟩, ⟨"dwarf", "size_t", .int 8 false⟩,
        ⟨"dwarf", "int", .int 4 true⟩] := by
  have hreach : Reachable "dwarf" _ :=
    ((Reachable.new "dwarf").add (.type "size_t" (.int 4 false))).add (.type "int" (.int 4 true))
  exact ⟨hreach, ((merge_leftBiased _ _ {}).1 _ hreach).1.trans (by decide)⟩

end Store

end ValueLattice
