/-
The stores of debug-info sessions, from an empty one through any adds and merges. In every store
that can be reached a parser has one row a key at most, parameters and data variables have storage,
and data variables carry the confidence of their type. Nothing that is stored changes or leaves:
an add appends the one row of its item for the session's contributor, or nothing at all.
-/
import ValueLattice.Proofs.DebugInfo.Rows

namespace ValueLattice

/-- Whether everything that an item describes has a place to be stored in. -/
def NewItem.Storable : NewItem → Prop
  | .type _ _ => True
  | .function info => ∀ p ∈ info.parameters, p.2.hasStorage = true
  | .data _ ty _ => ty.hasStorage = true

namespace Store

open Contribution

/-- What holds of the stores that sessions reach. -/
structure WellFormed (s : Store) : Prop where
  types : (s.types.map fun c => (c.parser, c.item.name)).Nodup
  functions : (s.functions.map fun c => (c.parser, c.item.address)).Nodup
  data : (s.data.map fun c => (c.parser, c.item.address)).Nodup
  parameters : ∀ c ∈ s.functions, ∀ p ∈ c.item.parameters, p.2.hasStorage = true
  places : ∀ c ∈ s.data, c.item.type.hasStorage = true
  confidence : ∀ c ∈ s.data, c.item.typeConfidence = c.item.type.confidence

/-- Each list of `t` begins with that of `s`. -/
structure Extends (s t : Store) : Prop where
  types : s.types <+: t.types
  functions : s.functions <+: t.functions
  data : s.data <+: t.data

theorem Extends.refl (s : Store) : s.Extends s :=
  ⟨List.prefix_refl _, List.prefix_refl _, List.prefix_refl _⟩

/-- The store with one row more, that of the item. -/
def appended (s : Store) (parser : String) : NewItem → Store
  | .type name type => { s with types := s.types ++ [⟨parser, name, type⟩] }
  | .function info => { s with functions := s.functions ++ [⟨parser, info⟩] }
  | .data address type name =>
    { s with data := s.data ++ [⟨parser, address, type, name, true, type.confidence⟩] }

/-- Whether a parser has a row with the key of an item already. -/
def Holds (s : Store) (parser : String) : NewItem → Prop
  | .type name _ => ∃ c ∈ s.types, c.parser = parser ∧ c.item.name = name
  | .function info => ∃ c ∈ s.functions, c.parser = parser ∧ c.item.address = info.address
  | .data address _ _ => ∃ c ∈ s.data, c.parser = parser ∧ c.item.address = address

theorem extends_appended (s : Store) (parser : String) (item : NewItem) :
    s.Extends (s.appended parser item) := by
  cases item with
  | type name type => exact ⟨List.prefix_append _ _, List.prefix_refl _, List.prefix_refl _⟩
  | function info => exact ⟨List.prefix_refl _, List.prefix_append _ _, List.prefix_refl _⟩
  | data address type name =>
    exact ⟨List.prefix_refl _, List.prefix_refl _, List.prefix_append _ _⟩

theorem appended_ne (s : Store) (parser : String) (item : NewItem) :
    s.appended parser item ≠ s := by
  intro h
  cases item with
  | type name type => simpa [appended] using congrArg Store.types h
  | function info => simpa [appended] using congrArg Store.functions h
  | data address type name => simpa [appended] using congrArg Store.data h

/-! ## Adding -/

/-- A row is appended unless its parser has one with the same key. -/
theorem addRow_cases {α κ : Type} [DecidableEq κ] (key : α → κ) (rows : List (Contribution α))
    (c : Contribution α) :
    ((∃ r ∈ rows, r.parser = c.parser ∧ key r.item = key c.item) ∧
      addRow key rows c = (false, rows)) ∨
    ((¬ ∃ r ∈ rows, r.parser = c.parser ∧ key r.item = key c.item) ∧
      addRow key rows c = (true, rows ++ [c])) := by
  unfold addRow
  rw [← mem_keys_iff key]
  by_cases hmem : rowKey key c ∈ rows.map (rowKey key)
  · left
    rw [(any_clashes_iff key).2 hmem, append_of_mem key hmem]
    exact ⟨hmem, rfl⟩
  · right
    have hany := Bool.eq_false_iff.2 fun hany => hmem ((any_clashes_iff key).1 hany)
    rw [hany, append_of_not_mem key hmem]
    exact ⟨hmem, rfl⟩

theorem add_type (s : Store) (parser name : String) (type : Ty) :
    s.add parser (.type name type) =
      (.ok (addRow NamedType.name s.types ⟨parser, name, type⟩).1,
        { s with types := (addRow NamedType.name s.types ⟨parser, name, type⟩).2 }) := rfl

theorem add_function {info : FunctionInfo} (h : (NewItem.function info).Storable) (s : Store)
    (parser : String) :
    s.add parser (.function info) =
      (.ok (addRow FunctionInfo.address s.functions ⟨parser, info⟩).1,
        { s with functions := (addRow FunctionInfo.address s.functions ⟨parser, info⟩).2 }) := by
  have hfind : (info.parameters.find? fun p => !p.2.hasStorage) = none :=
    List.find?_eq_none.2 fun p hp => by simp [h p hp]
  simp only [add, addFunction, hfind]

theorem add_function_refused {info : FunctionInfo} (h : ¬ (NewItem.function info).Storable)
    (s : Store) (parser : String) :
    ∃ reason, s.add parser (.function info) = (.error (.notSupported reason), s) := by
  rcases hfind : info.parameters.find? fun p => !p.2.hasStorage with _ | ⟨name, type⟩
  · refine absurd (fun p hp => ?_) h
    simpa using List.find?_eq_none.1 hfind p hp
  · exact ⟨.parameterWithoutStorage name type, by simp only [add, addFunction, hfind]⟩

theorem add_data {address : UInt64} {type : Ty} {name : Option String}
    (h : (NewItem.data address type name).Storable) (s : Store) (parser : String) :
    s.add parser (.data address type name) =
      (.ok (addRow DataVariable.address s.data
          ⟨parser, address, type, name, true, type.confidence⟩).1,
        { s with data := (addRow DataVariable.address s.data
          ⟨parser, address, type, name, true, type.confidence⟩).2 }) :=
  if_pos h

/-- Everything that an add can do: an item without storage is refused, even if its key is taken,
one whose key is taken is left out, and any other is appended. -/
theorem add_cases (s : Store) (parser : String) (item : NewItem) :
    (¬ item.Storable ∧ ∃ reason, s.add parser item = (.error (.notSupported reason), s)) ∨
    (item.Storable ∧ s.Holds parser item ∧ s.add parser item = (.ok false, s)) ∨
    (item.Storable ∧ ¬ s.Holds parser item ∧
      s.add parser item = (.ok true, s.appended parser item)) := by
  by_cases hstorable : item.Storable
  · right
    cases item with
    | type name type =>
      rw [add_type]
      rcases addRow_cases NamedType.name s.types ⟨parser, name, type⟩ with ⟨h, hrow⟩ | ⟨h, hrow⟩
      · rw [hrow]; exact .inl ⟨hstorable, h, rfl⟩
      · rw [hrow]; exact .inr ⟨hstorable, h, rfl⟩
    | function info =>
      rw [add_function hstorable]
      rcases addRow_cases FunctionInfo.address s.functions ⟨parser, info⟩ with ⟨h, hrow⟩ | ⟨h, hrow⟩
      · rw [hrow]; exact .inl ⟨hstorable, h, rfl⟩
      · rw [hrow]; exact .inr ⟨hstorable, h, rfl⟩
    | data address type name =>
      rw [add_data hstorable]
      rcases addRow_cases DataVariable.address s.data
        ⟨parser, address, type, name, true, type.confidence⟩ with ⟨h, hrow⟩ | ⟨h, hrow⟩
      · rw [hrow]; exact .inl ⟨hstorable, h, rfl⟩
      · rw [hrow]; exact .inr ⟨hstorable, h, rfl⟩
  · left
    refine ⟨hstorable, ?_⟩
    cases item with
    | type name type => exact absurd trivial hstorable
    | function info => exact add_function_refused hstorable s parser
    | data address type name => exact ⟨_, if_neg hstorable⟩

theorem extends_add (s : Store) (parser : String) (item : NewItem) :
    s.Extends (s.add parser item).2 := by
  rcases s.add_cases parser item with ⟨-, _, h⟩ | ⟨-, -, h⟩ | ⟨-, -, h⟩
  · rw [h]; exact .refl s
  · rw [h]; exact .refl s
  · rw [h]; exact s.extends_appended parser item

theorem extends_merge (s t : Store) : s.Extends (s.merge t) :=
  ⟨prefix_appendAll _ _ _, prefix_appendAll _ _ _, prefix_appendAll _ _ _⟩

/-! ## Well-formed stores -/

theorem wellFormed_empty : ({} : Store).WellFormed :=
  ⟨List.nodup_nil, List.nodup_nil, List.nodup_nil, by simp, by simp, by simp⟩

theorem wellFormed_appended {s : Store} (hs : s.WellFormed) {parser : String} {item : NewItem}
    (hstorable : item.Storable) (hfree : ¬ s.Holds parser item) :
    (s.appended parser item).WellFormed := by
  cases item with
  | type name type =>
    have hkey := mt (mem_keys_iff NamedType.name (c := ⟨parser, name, type⟩)).1 hfree
    exact { hs with types := distinct_concat NamedType.name hs.types hkey }
  | function info =>
    have hkey := mt (mem_keys_iff FunctionInfo.address (c := ⟨parser, info⟩)).1 hfree
    refine { hs with
      functions := distinct_concat FunctionInfo.address hs.functions hkey
      parameters := fun c hc => ?_ }
    rcases List.mem_append.1 hc with hc | hc
    · exact hs.parameters c hc
    · rw [List.mem_singleton.1 hc]; exact hstorable
  | data address type name =>
    have hkey := mt (mem_keys_iff DataVariable.address
      (c := ⟨parser, address, type, name, true, type.confidence⟩)).1 hfree
    refine { hs with
      data := distinct_concat DataVariable.address hs.data hkey
      places := fun c hc => ?_
      confidence := fun c hc => ?_ }
    · rcases List.mem_append.1 hc with hc | hc
      · exact hs.places c hc
      · rw [List.mem_singleton.1 hc]; exact hstorable
    · rcases List.mem_append.1 hc with hc | hc
      · exact hs.confidence c hc
      · rw [List.mem_singleton.1 hc]

theorem wellFormed_add {s : Store} (hs : s.WellFormed) (parser : String) (item : NewItem) :
    (s.add parser item).2.WellFormed := by
  rcases s.add_cases parser item with ⟨-, _, h⟩ | ⟨-, -, h⟩ | ⟨hstorable, hfree, h⟩
  · rw [h]; exact hs
  · rw [h]; exact hs
  · rw [h]; exact wellFormed_appended hs hstorable hfree

theorem wellFormed_merge {s t : Store} (hs : s.WellFormed) (ht : t.WellFormed) :
    (s.merge t).WellFormed where
  types := distinct_appendAll NamedType.name hs.types t.types
  functions := distinct_appendAll FunctionInfo.address hs.functions t.functions
  data := distinct_appendAll DataVariable.address hs.data t.data
  parameters c hc :=
    (mem_of_mem_appendAll _ hc).elim (hs.parameters c) (ht.parameters c)
  places c hc := (mem_of_mem_appendAll _ hc).elim (hs.places c) (ht.places c)
  confidence c hc := (mem_of_mem_appendAll _ hc).elim (hs.confidence c) (ht.confidence c)

/-! ## Reachable stores -/

/-- What a session of a contributor can come to hold: it starts empty, adds for its contributor,
and takes over what other sessions have come to hold. -/
inductive Reachable : String → Store → Prop
  | new (contributor : String) : Reachable contributor {}
  | add {contributor : String} {s : Store} (item : NewItem) :
      Reachable contributor s → Reachable contributor (s.add contributor item).2
  | merge {contributor other : String} {s t : Store} :
      Reachable contributor s → Reachable other t → Reachable contributor (s.merge t)

theorem reachable_wellFormed {contributor : String} {s : Store} (h : Reachable contributor s) :
    s.WellFormed := by
  induction h with
  | new contributor => exact wellFormed_empty
  | add item _ ih => exact wellFormed_add ih _ item
  | merge _ _ ihs iht => exact wellFormed_merge ihs iht

end Store

end ValueLattice
