/-
What stands under the name of each contributor. The items that a session lists for a name are the
items of the rows with that name, in their order. The lists for the names of a session hold all of
its items between them, each as often as the session does, because every row has one of the names
and no name occurs twice; any other name has nothing. No key occurs twice under one name.
-/
import ValueLattice.Proofs.DebugInfo.Contributors
import ValueLattice.Proofs.DebugInfo.Reordering

namespace ValueLattice

namespace Contribution

variable {α κ : Type} {key : α → κ} {names : List String} {name : String}
  {rows : List (Contribution α)}

/-! ## Rows by name -/

/-- The rows of one name after those of another are all rows in another order, if every row has one
of the names and no name is repeated. -/
theorem flatMap_filter_perm (hnames : names.Nodup) (hrows : ∀ c ∈ rows, c.parser ∈ names) :
    (names.flatMap fun name => rows.filter fun c => c.parser == name).Perm rows := by
  induction names generalizing rows with
  | nil =>
    have hnone : rows = [] :=
      List.eq_nil_iff_forall_not_mem.2 fun c hc => List.not_mem_nil (hrows c hc)
    rw [hnone]
    exact .refl _
  | cons first names ih =>
    obtain ⟨hfirst, hnames⟩ := List.nodup_cons.1 hnames
    -- a later name has the rows that it has among those without the first name
    have hlater : ∀ name ∈ names, (rows.filter fun c => c.parser == name) =
        (rows.filter fun c => !(c.parser == first)).filter fun c => c.parser == name := by
      intro name hname
      rw [List.filter_filter]
      refine List.filter_congr fun c _ => ?_
      by_cases h : c.parser = name
      · have hne : c.parser ≠ first := fun heq => hfirst (heq ▸ h ▸ hname)
        simp [h, h ▸ hne]
      · simp [h]
    have hrest : ∀ c ∈ rows.filter (fun c => !(c.parser == first)), c.parser ∈ names := by
      intro c hc
      obtain ⟨hmem, hne⟩ := List.mem_filter.1 hc
      exact (List.mem_cons.1 (hrows c hmem)).resolve_left (by simpa using hne)
    rw [List.flatMap_cons, List.flatMap_congr hlater]
    exact ((ih hnames hrest).append_left _).trans (List.filter_append_perm _ rows)

theorem itemsOf_some (rows : List (Contribution α)) (name : String) :
    itemsOf rows (some name) = (rows.filter fun c => c.parser == name).map item := rfl

/-- No name has two items with one key. -/
theorem nodup_keys_itemsOf (hrows : Distinct key rows) (name : String) :
    ((itemsOf rows (some name)).map key).Nodup := by
  have hsome : Distinct key (rows.filter fun c => c.parser == name) :=
    hrows.sublist (List.filter_sublist.map _)
  have hkeys : (rows.filter fun c => c.parser == name).map (rowKey key) =
      ((itemsOf rows (some name)).map key).map (Prod.mk name) := by
    rw [itemsOf_some, List.map_map, List.map_map]
    refine List.map_congr_left fun c hc => ?_
    have hname : c.parser = name := by simpa using (List.mem_filter.1 hc).2
    simp [rowKey, hname]
  rw [Distinct, hkeys] at hsome
  exact hsome.of_map _

/-! ## Attribution -/

/-- Whether what is listed for each name, and for none, is what the rows attribute to it. -/
structure Attributed (key : α → κ) (names : List String) (rows : List (Contribution α))
    (listed : Option String → List α) : Prop where
  everything : listed none = rows.map item
  own : ∀ name, ∃ own : List (Contribution α), own.Sublist rows ∧
    (∀ c, c ∈ own ↔ c ∈ rows ∧ c.parser = name) ∧ listed (some name) = own.map item
  together : (names.flatMap fun name => listed (some name)).Perm (listed none)
  nothing : ∀ name, name ∉ names → listed (some name) = []
  distinct : ∀ name, ((listed (some name)).map key).Nodup

theorem attributed_itemsOf (hnames : names.Nodup) (hmem : ∀ c ∈ rows, c.parser ∈ names)
    (hrows : Distinct key rows) : Attributed key names rows (itemsOf rows) where
  everything := Store.itemsOf_none rows
  own name := ⟨_, List.filter_sublist, fun c => by simp, itemsOf_some rows name⟩
  together := by
    simp only [Store.itemsOf_none, itemsOf_some, ← List.map_flatMap]
    exact (flatMap_filter_perm hnames hmem).map item
  nothing name hname := by
    rw [itemsOf_some, List.map_eq_nil_iff, List.filter_eq_nil_iff]
    intro c hc h
    exact hname (beq_iff_eq.1 h ▸ hmem c hc)
  distinct := nodup_keys_itemsOf hrows

end Contribution

namespace Store

open Contribution (Attributed attributed_itemsOf)

variable {contributor : String} {s : Store}

/-- In a session that adds and merges have led to, the types, functions and data variables that are
listed under a name are those which that name contributed, in their order and with different keys;
the lists of the contributors are everything between them, and nobody else has anything. -/
theorem items_attributed (h : Reachable contributor s) :
    s.parserNames.Nodup ∧
    Attributed NamedType.name s.parserNames s.types s.typesOf ∧
    Attributed FunctionInfo.address s.parserNames s.functions s.functionsOf ∧
    Attributed DataVariable.address s.parserNames s.data s.dataOf := by
  have hs := reachable_wellFormed h
  have hnames : s.parserNames.Nodup := nodup_firstOccurrences _
  have hmem {name : String} (hname : name ∈ s.contributors) : name ∈ s.parserNames :=
    mem_parserNames.2 hname
  refine ⟨hnames, attributed_itemsOf hnames (fun c hc => hmem ?_) hs.types,
    attributed_itemsOf hnames (fun c hc => hmem ?_) hs.functions,
    attributed_itemsOf hnames (fun c hc => hmem ?_) hs.data⟩
  · exact mem_contributors_iff.2 (.inl ⟨c, hc, rfl⟩)
  · exact mem_contributors_iff.2 (.inr (.inl ⟨c, hc, rfl⟩))
  · exact mem_contributors_iff.2 (.inr (.inr ⟨c, hc, rfl⟩))

/-- A caller who adds a type before and after a parser's contribution is merged: the lists of the
two put together are the types in another order. -/
theorem items_attributed_between : ∃ s, Reachable "user" s ∧ s.parserNames = ["user", "dwarf"] ∧
    (s.typesOf none).map NamedType.name = ["HANDLE", "size_t", "int"] ∧
    (s.typesOf (some "user")).map NamedType.name = ["HANDLE", "int"] ∧
    (s.parserNames.flatMap fun name => s.typesOf (some name)).Perm (s.typesOf none) := by
  have hdwarf := (Reachable.new "dwarf").add (.type "size_t" (.int 8 false))
  have huser := (Reachable.new "user").add (.type "HANDLE" (.int 8 false))
  have hboth := (huser.merge hdwarf).add (.type "int" (.int 4 true))
  exact ⟨_, hboth, by decide, by decide, by decide, (items_attributed hboth).2.1.together⟩

end Store

end ValueLattice
