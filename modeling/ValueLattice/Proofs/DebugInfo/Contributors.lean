/-
The names of contributors, beside the history of a session. A history records who contributed each
row in the order in which the rows came in. The names are those of the contributors of all rows,
each once, but they follow the lists: who has types comes before who has functions only. So a
contributor that came first can be overtaken by one that came later, and the names are in the order
of addition if and only if no contributor is.
-/
import ValueLattice.Proofs.DebugInfo.Lifecycle
import Mathlib.Data.List.Perm.Basic

namespace ValueLattice

/-! ## First occurrences -/

section FirstOccurrences

variable {names : List String} {name : String}

theorem mem_firstOccurrences : name ∈ firstOccurrences names ↔ name ∈ names := by
  induction names with
  | nil => rfl
  | cons n names ih =>
    rw [firstOccurrences, List.mem_cons, List.mem_cons, List.mem_filter, ih]
    by_cases hname : name = n <;> simp [hname]

theorem nodup_firstOccurrences (names : List String) : (firstOccurrences names).Nodup := by
  induction names with
  | nil => exact List.nodup_nil
  | cons n names ih =>
    rw [firstOccurrences, List.nodup_cons]
    exact ⟨by simp, ih.filter _⟩

/-- The names stand in the order of their first places. -/
theorem pairwise_firstOccurrences (names : List String) :
    (firstOccurrences names).Pairwise fun a b => names.idxOf a < names.idxOf b := by
  induction names with
  | nil => exact .nil
  | cons n names ih =>
    have hplace {a : String} (ha : a ∈ (firstOccurrences names).filter fun m => m != n) :
        (n :: names).idxOf a = names.idxOf a + 1 := by
      have hne : a ≠ n := by simpa using (List.mem_filter.1 ha).2
      exact List.idxOf_cons_ne _ hne.symm
    refine List.pairwise_cons.2 ⟨fun a ha => ?_, ?_⟩
    · rw [hplace ha, List.idxOf_cons_self]
      exact Nat.succ_pos _
    · refine (ih.filter _).imp_of_mem fun ha hb hab => ?_
      rw [hplace ha, hplace hb]
      exact Nat.succ_lt_succ hab

end FirstOccurrences

/-! ## Places in lists -/

section Places

variable {α : Type} {as : List α} {f g : α → Nat}

/-- A list in the order of `f` is in the order of `g` as well if and only if `f` respects the
order of `g` on it. -/
theorem pairwise_lt_iff (hf : as.Pairwise fun a b => f a < f b)
    (hg : ∀ a ∈ as, ∀ b ∈ as, g a = g b → a = b) :
    as.Pairwise (fun a b => g a < g b) ↔ ∀ a ∈ as, ∀ b ∈ as, g a < g b → f a < f b := by
  constructor
  · intro hordered
    induction as with
    | nil => simp
    | cons c as ih =>
      obtain ⟨hfc, hf⟩ := List.pairwise_cons.1 hf
      obtain ⟨hgc, hordered⟩ := List.pairwise_cons.1 hordered
      have hrest := ih hf (fun a ha b hb => hg a (List.mem_cons_of_mem _ ha) b
        (List.mem_cons_of_mem _ hb)) hordered
      intro a hac b hbc hlt
      rcases List.mem_cons.1 hac with rfl | ha
      · rcases List.mem_cons.1 hbc with rfl | hb
        · exact absurd hlt (Nat.lt_irrefl _)
        · exact hfc b hb
      · rcases List.mem_cons.1 hbc with rfl | hb
        · exact absurd hlt (Nat.lt_asymm (hgc a ha))
        · exact hrest a ha b hb hlt
  · intro hrespects
    refine hf.imp_of_mem fun {a b} ha hb hlt => ?_
    rcases Nat.lt_trichotomy (g a) (g b) with h | h | h
    · exact h
    · rw [hg a ha b hb h] at hlt
      exact absurd hlt (Nat.lt_irrefl _)
    · exact absurd (hrespects b hb a ha h) (Nat.lt_asymm hlt)

theorem idxOf_append_lt_iff [DecidableEq α] {as bs : List α} {a b : α} :
    (as ++ bs).idxOf a < (as ++ bs).idxOf b ↔
      as.idxOf a < as.idxOf b ∨ b ∉ as ∧ bs.idxOf a < bs.idxOf b := by
  have ha := List.idxOf_le_length (l := as) (a := a)
  have hb := List.idxOf_le_length (l := as) (a := b)
  -- what is missing has the place after the last one
  simp only [List.idxOf_append, ← List.idxOf_lt_length_iff]
  split <;> split <;> omega

end Places

/-! ## Histories -/

namespace Store

variable {contributor : String} {s t : Store} {log : List String} {a b : String}

/-- The contributors of the rows that a store has beyond those of `s`, in the order in which a
session takes rows over: types, then functions, then data variables. -/
def arrivals (s t : Store) : List String :=
  (t.types.drop s.types.length).map Contribution.parser ++
    (t.functions.drop s.functions.length).map Contribution.parser ++
    (t.data.drop s.data.length).map Contribution.parser

/-- What a session of a contributor can come to hold, with the contributors of its rows in the order
of time. Adds that store nothing leave no trace. -/
inductive History (contributor : String) : Store → List String → Prop
  | new : History contributor {} []
  | add {s : Store} {log : List String} (item : NewItem) :
      History contributor s log → (s.add contributor item).1 = .ok true →
      History contributor (s.add contributor item).2 (log ++ [contributor])
  | merge {s t : Store} {log : List String} {other : String} :
      History contributor s log → Reachable other t →
      History contributor (s.merge t) (log ++ s.arrivals (s.merge t))

/-- Whether `a` has a row in a list before any row of `b`. -/
def Leads {α : Type} (rows : List (Contribution α)) (a b : String) : Prop :=
  (rows.map Contribution.parser).idxOf a < (rows.map Contribution.parser).idxOf b

/-- Whether `a` has a type before `b` has one, or else, if `b` has no types, a function before `b`
has one, or else, if `b` has no functions either, a data variable before `b` has one. -/
def ListedBefore (s : Store) (a b : String) : Prop :=
  Leads s.types a b ∨ (∀ c ∈ s.types, c.parser ≠ b) ∧
    (Leads s.functions a b ∨ (∀ c ∈ s.functions, c.parser ≠ b) ∧ Leads s.data a b)

/-- The contributors of all rows, list by list. -/
def contributors (s : Store) : List String :=
  s.types.map Contribution.parser ++ s.functions.map Contribution.parser ++
    s.data.map Contribution.parser

theorem mem_contributors_iff : a ∈ s.contributors ↔ (∃ c ∈ s.types, c.parser = a) ∨
    (∃ c ∈ s.functions, c.parser = a) ∨ ∃ c ∈ s.data, c.parser = a := by
  unfold contributors
  rw [List.mem_append, List.mem_append, List.mem_map, List.mem_map, List.mem_map, or_assoc]

theorem listedBefore_iff : s.ListedBefore a b ↔
    s.contributors.idxOf a < s.contributors.idxOf b := by
  have habsent {α : Type} (rows : List (Contribution α)) :
      (∀ c ∈ rows, c.parser ≠ b) ↔ b ∉ rows.map Contribution.parser := by simp
  unfold ListedBefore Leads contributors
  rw [List.append_assoc, idxOf_append_lt_iff, idxOf_append_lt_iff, habsent, habsent]

/-! ## What a history tells -/

theorem exists_history (h : Reachable contributor s) : ∃ log, History contributor s log := by
  induction h with
  | new contributor => exact ⟨[], .new⟩
  | @add contributor s item _ ih =>
    obtain ⟨log, hlog⟩ := ih
    rcases s.add_cases contributor item with ⟨-, _, h⟩ | ⟨-, -, h⟩ | ⟨-, -, h⟩
    · exact ⟨log, by rw [h]; exact hlog⟩
    · exact ⟨log, by rw [h]; exact hlog⟩
    · exact ⟨_, hlog.add item (by rw [h])⟩
  | merge _ ht ih _ =>
    obtain ⟨log, hlog⟩ := ih
    exact ⟨_, hlog.merge ht⟩

theorem History.reachable (h : History contributor s log) : Reachable contributor s := by
  induction h with
  | new => exact .new contributor
  | add item _ _ ih => exact ih.add item
  | merge _ ht ih => exact ih.merge ht

/-- An item that is added is one arrival. -/
theorem arrivals_appended (s : Store) (parser : String) (item : NewItem) :
    s.arrivals (s.appended parser item) = [parser] := by
  cases item <;> simp [arrivals, appended]

/-- Whether a log has the contributors of all rows, and those of each list in their order. -/
structure Interleaves (s : Store) (log : List String) : Prop where
  perm : log.Perm s.contributors
  types : (s.types.map Contribution.parser).Sublist log
  functions : (s.functions.map Contribution.parser).Sublist log
  data : (s.data.map Contribution.parser).Sublist log

theorem map_parser_of_prefix {α : Type} {rows more : List (Contribution α)} (h : rows <+: more) :
    more.map Contribution.parser =
      rows.map Contribution.parser ++ (more.drop rows.length).map Contribution.parser := by
  rw [← List.map_append, List.prefix_iff_eq_append.1 h]

/-- A store that goes on from another one has its arrivals at the end of the log. -/
theorem Interleaves.extend (h : s.Interleaves log) (hext : s.Extends t) :
    t.Interleaves (log ++ s.arrivals t) := by
  have htypes := map_parser_of_prefix hext.types
  have hfunctions := map_parser_of_prefix hext.functions
  have hdata := map_parser_of_prefix hext.data
  refine ⟨List.perm_iff_count.2 fun name => ?_, ?_, ?_, ?_⟩
  · have hcount := h.perm.count_eq name
    unfold contributors at hcount ⊢
    unfold arrivals
    rw [htypes, hfunctions, hdata]
    simp only [List.count_append] at hcount ⊢
    omega
  · rw [htypes]
    refine h.types.append ?_
    exact (List.sublist_append_left _ _).trans (List.sublist_append_left _ _)
  · rw [hfunctions]
    refine h.functions.append ?_
    exact (List.sublist_append_right _ _).trans (List.sublist_append_left _ _)
  · rw [hdata]
    exact h.data.append (List.sublist_append_right _ _)

theorem History.interleaves (h : History contributor s log) : s.Interleaves log := by
  induction h with
  | new => exact ⟨.refl _, .refl _, .refl _, .refl _⟩
  | @add s _ item _ hadded ih =>
    have hextends := s.extends_add contributor item
    rcases s.add_cases contributor item with ⟨-, _, h⟩ | ⟨-, -, h⟩ | ⟨-, -, h⟩
    · rw [h] at hadded; cases hadded
    · rw [h] at hadded; cases hadded
    · rw [h] at hextends ⊢
      rw [← s.arrivals_appended contributor item]
      exact ih.extend hextends
  | @merge s t _ _ _ _ ih => exact ih.extend (s.extends_merge t)

/-- The log of a session with items of one kind only lists its contributors in their order. -/
theorem Interleaves.eq_contributors (h : s.Interleaves log)
    (hone : s.functions = [] ∧ s.data = [] ∨ s.types = [] ∧ s.data = [] ∨
      s.types = [] ∧ s.functions = []) : log = s.contributors := by
  have hlength := h.perm.length_eq.symm
  have hsublist : s.contributors.Sublist log := by
    unfold contributors
    rcases hone with ⟨h₁, h₂⟩ | ⟨h₁, h₂⟩ | ⟨h₁, h₂⟩
    · simpa [h₁, h₂] using h.types
    · simpa [h₁, h₂] using h.functions
    · simpa [h₁, h₂] using h.data
  exact (hsublist.eq_of_length hlength).symm

/-! ## The names -/

theorem parserNames_eq (s : Store) : s.parserNames = firstOccurrences s.contributors := rfl

theorem mem_parserNames : a ∈ s.parserNames ↔ a ∈ s.contributors :=
  mem_firstOccurrences

theorem pairwise_parserNames (s : Store) : s.parserNames.Pairwise s.ListedBefore :=
  (pairwise_firstOccurrences s.contributors).imp listedBefore_iff.2

/-- The names of a session are those of the contributors of its rows, each once, in the order of
their first rows list by list. This is the order in which the contributors came if and only if no
contributor that came later is listed before an earlier one, and so if there are types only,
functions only or data variables only. -/
theorem parserNames_listed (contributor : String) (s : Store) :
    s.parserNames.Nodup ∧
    (∀ name, name ∈ s.parserNames ↔ (∃ c ∈ s.types, c.parser = name) ∨
      (∃ c ∈ s.functions, c.parser = name) ∨ ∃ c ∈ s.data, c.parser = name) ∧
    s.parserNames.Pairwise s.ListedBefore ∧
    (Reachable contributor s ↔ ∃ log, History contributor s log) ∧
    ∀ log, History contributor s log →
      (∀ name, name ∈ s.parserNames ↔ name ∈ log) ∧
      (s.parserNames.Pairwise (fun a b => log.idxOf a < log.idxOf b) ↔
        ∀ a ∈ log, ∀ b ∈ log, log.idxOf a < log.idxOf b → s.ListedBefore a b) ∧
      (s.functions = [] ∧ s.data = [] ∨ s.types = [] ∧ s.data = [] ∨
          s.types = [] ∧ s.functions = [] →
        s.parserNames.Pairwise fun a b => log.idxOf a < log.idxOf b) := by
  refine ⟨nodup_firstOccurrences _, fun name => mem_parserNames.trans mem_contributors_iff,
    s.pairwise_parserNames, ⟨exists_history, fun ⟨_, h⟩ => h.reachable⟩, fun log h => ?_⟩
  have hlog := h.interleaves
  have hmem (name : String) : name ∈ s.parserNames ↔ name ∈ log :=
    mem_parserNames.trans hlog.perm.mem_iff.symm
  refine ⟨hmem, ?_, fun hone => ?_⟩
  · have hplaces : ∀ a ∈ s.parserNames, ∀ b ∈ s.parserNames, log.idxOf a = log.idxOf b → a = b :=
      fun a ha b _ heq => (List.idxOf_inj ((hmem a).1 ha)).1 heq
    rw [parserNames_eq] at hplaces hmem ⊢
    rw [pairwise_lt_iff (pairwise_firstOccurrences s.contributors) hplaces]
    simp only [hmem, listedBefore_iff]
  · rw [hlog.eq_contributors hone]
    exact pairwise_firstOccurrences s.contributors

/-- Two parsers that add types, one after the other, are named in the order in which they came. -/
theorem parserNames_listed_types : ∃ s log, History "pdb" s log ∧ log = ["pdb", "dwarf"] ∧
    s.parserNames = ["pdb", "dwarf"] ∧
    s.parserNames.Pairwise fun a b => log.idxOf a < log.idxOf b := by
  have hdwarf := (Reachable.new "dwarf").add (.type "size_t" (.int 8 false))
  have hpdb : History "pdb" {} [] := .new
  have hlog := (hpdb.add (.type "HANDLE" (.int 8 false)) (by decide)).merge hdwarf
  refine ⟨_, _, hlog, by decide, by decide, ?_⟩
  obtain ⟨-, -, -, -, hhistory⟩ := parserNames_listed "pdb" _
  exact (hhistory _ hlog).2.2 (.inl ⟨by decide, by decide⟩)

/-- A parser that came first with a function is named after a parser that came later with a type. -/
theorem parserNames_overtaken : ∃ s log, History "user" s log ∧ log = ["dwarf", "pdb"] ∧
    s.parserNames = ["pdb", "dwarf"] ∧
    ¬ s.parserNames.Pairwise fun a b => log.idxOf a < log.idxOf b := by
  have hdwarf := (Reachable.new "dwarf").add
    (.function { address := 0x1000, shortName := some "main" })
  have hpdb := (Reachable.new "pdb").add (.type "size_t" (.int 8 false))
  exact ⟨_, _, (History.new.merge hdwarf).merge hpdb, by decide, by decide, by decide⟩

end Store

end ValueLattice
