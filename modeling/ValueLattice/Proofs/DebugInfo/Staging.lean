/-
What parsers contribute to a view. A parser contributes exactly if its first callback says yes and
its second one succeeds, and then what its script filled an empty store with; all of these rows are
its own. So merging contributions touches no rows but those of the parsers that succeeded, and
parsers that contribute nothing can be left out.
-/
import ValueLattice.DebugInfo.Staging
import ValueLattice.Proofs.DebugInfo.Lifecycle

namespace ValueLattice

theorem Outcome.result_eq_ok_iff {α : Type} {o : Outcome α} {a : α} :
    o.result = .ok a ↔ o = .done a := by
  unfold Outcome.result
  split <;> simp

/-! ## The rows of one parser -/

namespace Store

/-- The rows of a store that come from one parser. -/
def only (s : Store) (parser : String) : Store where
  types := s.types.filter fun c => c.parser == parser
  functions := s.functions.filter fun c => c.parser == parser
  data := s.data.filter fun c => c.parser == parser

/-- Whether every row of a store comes from one parser. -/
structure OnlyFrom (s : Store) (parser : String) : Prop where
  types : ∀ c ∈ s.types, c.parser = parser
  functions : ∀ c ∈ s.functions, c.parser = parser
  data : ∀ c ∈ s.data, c.parser = parser

theorem onlyFrom_empty (parser : String) : ({} : Store).OnlyFrom parser :=
  ⟨by simp, by simp, by simp⟩

theorem onlyFrom_appended {s : Store} {parser : String} (hs : s.OnlyFrom parser)
    (item : NewItem) : (s.appended parser item).OnlyFrom parser := by
  cases item with
  | type name type =>
    refine { hs with types := fun c hc => ?_ }
    rcases List.mem_append.1 hc with hc | hc
    · exact hs.types c hc
    · rw [List.mem_singleton.1 hc]
  | function info =>
    refine { hs with functions := fun c hc => ?_ }
    rcases List.mem_append.1 hc with hc | hc
    · exact hs.functions c hc
    · rw [List.mem_singleton.1 hc]
  | data address type name =>
    refine { hs with data := fun c hc => ?_ }
    rcases List.mem_append.1 hc with hc | hc
    · exact hs.data c hc
    · rw [List.mem_singleton.1 hc]

theorem onlyFrom_add {s : Store} {parser : String} (hs : s.OnlyFrom parser) (item : NewItem) :
    (s.add parser item).2.OnlyFrom parser := by
  rcases s.add_cases parser item with ⟨-, _, h⟩ | ⟨-, -, h⟩ | ⟨-, -, h⟩
  · rw [h]; exact hs
  · rw [h]; exact hs
  · rw [h]; exact onlyFrom_appended hs item

/-- A merge leaves the rows of a parser alone that the other store has none of. -/
theorem only_merge {t : Store} {parser name : String} (ht : t.OnlyFrom parser)
    (hne : parser ≠ name) (s : Store) : (s.merge t).only name = s.only name := by
  have types : ∀ c ∈ t.types, c.parser ≠ name := fun c hc => by rw [ht.types c hc]; exact hne
  have functions : ∀ c ∈ t.functions, c.parser ≠ name :=
    fun c hc => by rw [ht.functions c hc]; exact hne
  have data : ∀ c ∈ t.data, c.parser ≠ name := fun c hc => by rw [ht.data c hc]; exact hne
  unfold only merge
  rw [Contribution.filter_appendAll_of_ne _ types,
    Contribution.filter_appendAll_of_ne _ functions, Contribution.filter_appendAll_of_ne _ data]

end Store

/-! ## Contributions -/

theorem Script.onlyFrom_fill {contributor : String} (fs : List FunctionHandle) (k : Script)
    {s : Store} (hs : s.OnlyFrom contributor) :
    (k.fill contributor fs s).2.OnlyFrom contributor := by
  induction k generalizing s with
  | finish outcome => exact hs
  | add item next ih => exact ih _ (Store.onlyFrom_add hs item)
  | rentFunctions next ih => exact ih _ hs
  | giveBack next ih => exact ih hs

namespace Parser

variable {p : Parser} {v : View} {s : Store}

theorem appliesTo_iff {info : ViewInfo} :
    p.appliesTo info = true ↔ p.isValid info = .done true := by
  rw [← Outcome.result_eq_ok_iff]
  unfold appliesTo
  split
  · next answer h => rw [h, Except.ok.injEq]
  · next h => simp [h]

theorem filled_eq_ok_iff :
    p.filled v = .ok s ↔ (p.script v.info).fill p.name v.functions {} = (.done (), s) := by
  unfold filled
  rcases (p.script v.info).fill p.name v.functions {} with ⟨outcome, t⟩
  show outcome.result.map (fun _ => t) = .ok s ↔ _
  rcases hresult : outcome.result with message | ⟨⟩
  · constructor
    · intro h; cases h
    · intro h; cases h; cases hresult
  · rw [Outcome.result_eq_ok_iff.1 hresult]
    simp [Except.map]

/-- A parser contributes if it says that it applies and then succeeds. -/
theorem contribution_eq_some_iff :
    p.contribution v = some s ↔ p.isValid v.info = .done true ∧
      (p.script v.info).fill p.name v.functions {} = (.done (), s) := by
  rw [← appliesTo_iff, ← filled_eq_ok_iff]
  unfold contribution
  by_cases happlies : p.appliesTo v.info = true
  · rw [if_pos happlies]
    rcases p.filled v with message | t
    · simp [happlies, Except.toOption]
    · simp [happlies, Except.toOption]
  · simp [happlies]

theorem contribution_of_ok (happlies : p.appliesTo v.info = true) (hfilled : p.filled v = .ok s) :
    p.contribution v = some s :=
  contribution_eq_some_iff.2 ⟨appliesTo_iff.1 happlies, filled_eq_ok_iff.1 hfilled⟩

theorem contribution_of_error {message : String} (hfilled : p.filled v = .error message) :
    p.contribution v = none := by
  unfold contribution
  rw [hfilled]
  split <;> rfl

theorem contribution_of_not_applies (h : p.appliesTo v.info = false) :
    p.contribution v = none := by
  unfold contribution
  rw [h, if_neg Bool.false_ne_true]

theorem onlyFrom_contribution (h : p.contribution v = some s) : s.OnlyFrom p.name := by
  have hfill := (contribution_eq_some_iff.1 h).2
  have hrows := Script.onlyFrom_fill v.functions (p.script v.info) (Store.onlyFrom_empty p.name)
  rw [hfill] at hrows
  exact hrows

end Parser

/-! ## Gathering -/

namespace Store

variable {v : View} {p : Parser} {ps : List Parser}

theorem gather_cons_some {t : Store} (h : p.contribution v = some t) (s : Store) :
    s.gather v (p :: ps) = (s.merge t).gather v ps := by
  unfold gather
  simp only [List.filterMap_cons, h, List.foldl_cons]

theorem gather_cons_none (h : p.contribution v = none) (s : Store) :
    s.gather v (p :: ps) = s.gather v ps := by
  unfold gather
  simp only [List.filterMap_cons, h]

/-- Parsers that contribute nothing can be left out. -/
theorem gather_filter {keep : Parser → Bool}
    (h : ∀ p ∈ ps, keep p = false → p.contribution v = none) (s : Store) :
    s.gather v (ps.filter keep) = s.gather v ps := by
  -- each contribution changes the store that the later ones are merged into
  induction ps generalizing s with
  | nil => rfl
  | cons p ps ih =>
    have hps := ih fun q hq => h q (List.mem_cons_of_mem _ hq)
    by_cases hkeep : keep p = true
    · rw [List.filter_cons_of_pos hkeep]
      rcases hp : p.contribution v with _ | t
      · rw [gather_cons_none hp, gather_cons_none hp, hps]
      · rw [gather_cons_some hp, gather_cons_some hp, hps]
    · have hp := h p (List.mem_cons_self ..) (Bool.not_eq_true _ ▸ hkeep)
      rw [List.filter_cons_of_neg hkeep, gather_cons_none hp, hps]

/-- The rows under a name stay as they are if no parser of that name contributes. -/
theorem only_gather {name : String}
    (h : ∀ p ∈ ps, p.name = name → p.contribution v = none) (s : Store) :
    (s.gather v ps).only name = s.only name := by
  induction ps generalizing s with
  | nil => rfl
  | cons p ps ih =>
    have hps := ih fun q hq => h q (List.mem_cons_of_mem _ hq)
    rcases hp : p.contribution v with _ | t
    · rw [gather_cons_none hp, hps]
    · have hne : p.name ≠ name := fun heq => by
        rw [h p (List.mem_cons_self ..) heq] at hp
        cases hp
      rw [gather_cons_some hp, hps, only_merge (Parser.onlyFrom_contribution hp) hne]

end Store

end ValueLattice
