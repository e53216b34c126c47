/-
Lists of contributions. A row is known by its parser and the key of its item. Appending keeps the
rows that are there in front, takes over no row whose key is there, and so never makes a key occur
twice; appending several rows does the same. The rows of one parser depend on no other parser.
-/
import ValueLattice.DebugInfo.Store
import Mathlib.Data.List.Nodup

namespace ValueLattice.Contribution

variable {α κ : Type} (key : α → κ)

/-- What a row is known by. -/
def rowKey (c : Contribution α) : String × κ :=
  (c.parser, key c.item)

/-- No two rows have the same parser and the same key. -/
def Distinct (rows : List (Contribution α)) : Prop :=
  (rows.map (rowKey key)).Nodup

theorem mem_keys_iff {rows : List (Contribution α)} {c : Contribution α} :
    rowKey key c ∈ rows.map (rowKey key) ↔
      ∃ r ∈ rows, r.parser = c.parser ∧ key r.item = key c.item := by
  simp [rowKey]

theorem mem_keys_filter_iff {rows : List (Contribution α)} {c : Contribution α} :
    rowKey key c ∈ (rows.filter fun r => r.parser == c.parser).map (rowKey key) ↔
      rowKey key c ∈ rows.map (rowKey key) := by
  rw [mem_keys_iff, mem_keys_iff]
  constructor
  · rintro ⟨r, hr, hkey⟩
    exact ⟨r, (List.mem_filter.1 hr).1, hkey⟩
  · rintro ⟨r, hr, hname, hkey⟩
    exact ⟨r, List.mem_filter.2 ⟨hr, beq_iff_eq.2 hname⟩, hname, hkey⟩

theorem distinct_concat {rows : List (Contribution α)} {c : Contribution α}
    (hrows : Distinct key rows) (h : rowKey key c ∉ rows.map (rowKey key)) :
    Distinct key (rows ++ [c]) := by
  rw [Distinct, List.map_append, List.map_singleton, ← List.concat_eq_append]
  exact List.Nodup.concat h hrows

variable [DecidableEq κ]

theorem clashes_iff {a b : Contribution α} :
    clashes key a b = true ↔ rowKey key a = rowKey key b := by
  simp [clashes, rowKey]

theorem any_clashes_iff {rows : List (Contribution α)} {c : Contribution α} :
    (rows.any fun r => clashes key r c) = true ↔ rowKey key c ∈ rows.map (rowKey key) := by
  rw [List.any_eq_true, List.mem_map]
  simp only [clashes_iff]

/-! ## One row -/

theorem append_of_mem {rows : List (Contribution α)} {c : Contribution α}
    (h : rowKey key c ∈ rows.map (rowKey key)) : append key rows c = rows := by
  unfold append
  rw [if_pos ((any_clashes_iff key).2 h)]

theorem append_of_not_mem {rows : List (Contribution α)} {c : Contribution α}
    (h : rowKey key c ∉ rows.map (rowKey key)) : append key rows c = rows ++ [c] := by
  unfold append
  rw [if_neg fun hany => h ((any_clashes_iff key).1 hany)]

theorem prefix_append (rows : List (Contribution α)) (c : Contribution α) :
    rows <+: append key rows c := by
  by_cases h : rowKey key c ∈ rows.map (rowKey key)
  · exact ⟨[], by rw [append_of_mem key h, List.append_nil]⟩
  · exact ⟨[c], (append_of_not_mem key h).symm⟩

theorem mem_of_mem_append {rows : List (Contribution α)} {c r : Contribution α}
    (hr : r ∈ append key rows c) : r ∈ rows ∨ r = c := by
  by_cases h : rowKey key c ∈ rows.map (rowKey key)
  · rw [append_of_mem key h] at hr; exact .inl hr
  · rw [append_of_not_mem key h] at hr; simpa using hr

theorem distinct_append {rows : List (Contribution α)} (hrows : Distinct key rows)
    (c : Contribution α) : Distinct key (append key rows c) := by
  by_cases h : rowKey key c ∈ rows.map (rowKey key)
  · rw [append_of_mem key h]; exact hrows
  · rw [append_of_not_mem key h]; exact distinct_concat key hrows h

/-! ## Several rows -/

theorem appendAll_cons (rows : List (Contribution α)) (c : Contribution α)
    (incoming : List (Contribution α)) :
    appendAll key rows (c :: incoming) = appendAll key (append key rows c) incoming := rfl

theorem prefix_appendAll (rows incoming : List (Contribution α)) :
    rows <+: appendAll key rows incoming := by
  induction incoming generalizing rows with
  | nil => exact List.prefix_refl _
  | cons c incoming ih => exact (prefix_append key rows c).trans (ih _)

theorem mem_of_mem_appendAll {rows incoming : List (Contribution α)} {r : Contribution α}
    (hr : r ∈ appendAll key rows incoming) : r ∈ rows ∨ r ∈ incoming := by
  induction incoming generalizing rows with
  | nil => exact .inl hr
  | cons c incoming ih =>
    rcases ih hr with h | h
    · rcases mem_of_mem_append key h with h | rfl
      · exact .inl h
      · exact .inr (List.mem_cons_self ..)
    · exact .inr (List.mem_cons_of_mem _ h)

theorem distinct_appendAll {rows : List (Contribution α)} (hrows : Distinct key rows)
    (incoming : List (Contribution α)) : Distinct key (appendAll key rows incoming) := by
  induction incoming generalizing rows with
  | nil => exact hrows
  | cons c incoming ih => exact ih (distinct_append key hrows c)

theorem mem_keys_append (rows : List (Contribution α)) (c : Contribution α) :
    rowKey key c ∈ (append key rows c).map (rowKey key) := by
  by_cases h : rowKey key c ∈ rows.map (rowKey key)
  · rw [append_of_mem key h]; exact h
  · rw [append_of_not_mem key h]; simp

/-- Every key that comes in is there afterwards. -/
theorem mem_keys_appendAll {rows incoming : List (Contribution α)} {c : Contribution α}
    (hc : c ∈ incoming) : rowKey key c ∈ (appendAll key rows incoming).map (rowKey key) := by
  induction incoming generalizing rows with
  | nil => cases hc
  | cons d incoming ih =>
    rcases List.mem_cons.1 hc with rfl | hc
    · exact ((prefix_appendAll key _ incoming).map _).subset (mem_keys_append key rows c)
    · exact ih hc

/-- Rows whose keys are all there change nothing. -/
theorem appendAll_of_forall_mem {rows incoming : List (Contribution α)}
    (h : ∀ c ∈ incoming, rowKey key c ∈ rows.map (rowKey key)) :
    appendAll key rows incoming = rows := by
  induction incoming with
  | nil => rfl
  | cons c incoming ih =>
    rw [appendAll_cons, append_of_mem key (h c (List.mem_cons_self ..))]
    exact ih fun d hd => h d (List.mem_cons_of_mem _ hd)

/-- Rows without a repeated key come in as they are, except for those whose key is taken. -/
theorem appendAll_eq_append_filter {incoming : List (Contribution α)}
    (hincoming : Distinct key incoming) (rows : List (Contribution α)) :
    appendAll key rows incoming =
      rows ++ incoming.filter fun c => rowKey key c ∉ rows.map (rowKey key) := by
  induction incoming generalizing rows with
  | nil => exact (List.append_nil rows).symm
  | cons c incoming ih =>
    obtain ⟨hc, hrest⟩ := List.nodup_cons.1 hincoming
    rw [appendAll_cons]
    by_cases h : rowKey key c ∈ rows.map (rowKey key)
    · rw [append_of_mem key h, ih hrest, List.filter_cons_of_neg (by simpa using h)]
    · rw [append_of_not_mem key h, ih hrest, List.filter_cons_of_pos (by simpa using h),
        List.append_assoc, List.singleton_append]
      -- no later row has the key that came in, so the later rows are kept or left out as before
      have hkeep : ∀ d ∈ incoming, (rowKey key d ∉ (rows ++ [c]).map (rowKey key)) ↔
          rowKey key d ∉ rows.map (rowKey key) := by
        intro d hd
        have hne : rowKey key d ≠ rowKey key c := fun heq => hc (heq ▸ List.mem_map_of_mem hd)
        rw [List.map_append, List.mem_append, List.map_singleton, List.mem_singleton]
        simp [hne]
      congr 2
      exact List.filter_congr fun d hd => decide_eq_decide.2 (hkeep d hd)

theorem nil_appendAll {incoming : List (Contribution α)} (hincoming : Distinct key incoming) :
    appendAll key [] incoming = incoming := by
  rw [appendAll_eq_append_filter key hincoming]
  simp

theorem appendAll_append (rows others : List (Contribution α)) (c : Contribution α) :
    appendAll key rows (append key others c) = append key (appendAll key rows others) c := by
  by_cases h : rowKey key c ∈ others.map (rowKey key)
  · obtain ⟨d, hd, hkey⟩ := List.mem_map.1 h
    rw [append_of_mem key h, append_of_mem key (hkey ▸ mem_keys_appendAll key hd)]
  · rw [append_of_not_mem key h]
    exact List.foldl_append

/-- Rows may be put together before they come in. -/
theorem appendAll_appendAll (rows others incoming : List (Contribution α)) :
    appendAll key rows (appendAll key others incoming) =
      appendAll key (appendAll key rows others) incoming := by
  induction incoming generalizing others with
  | nil => rfl
  | cons c incoming ih =>
    rw [appendAll_cons, ih, appendAll_append]
    rfl

/-! ## The rows of one parser -/

theorem filter_append (name : String) (rows : List (Contribution α)) (c : Contribution α) :
    (append key rows c).filter (fun r => r.parser == name) =
      if c.parser = name then append key (rows.filter fun r => r.parser == name) c
      else rows.filter fun r => r.parser == name := by
  by_cases hname : c.parser = name
  · subst hname
    rw [if_pos rfl]
    by_cases h : rowKey key c ∈ rows.map (rowKey key)
    · rw [append_of_mem key h, append_of_mem key ((mem_keys_filter_iff key).2 h)]
    · rw [append_of_not_mem key h, append_of_not_mem key (mt (mem_keys_filter_iff key).1 h)]
      simp
  · rw [if_neg hname]
    by_cases h : rowKey key c ∈ rows.map (rowKey key)
    · rw [append_of_mem key h]
    · -- the row that is taken over stands under another name, so the filter drops it
      rw [append_of_not_mem key h]
      simp [hname]

/-- What a parser has in the end depends on the rows of that parser alone. -/
theorem filter_appendAll (name : String) (rows incoming : List (Contribution α)) :
    (appendAll key rows incoming).filter (fun r => r.parser == name) =
      appendAll key (rows.filter fun r => r.parser == name)
        (incoming.filter fun r => r.parser == name) := by
  induction incoming generalizing rows with
  | nil => rfl
  | cons c incoming ih =>
    rw [appendAll_cons, ih, filter_append]
    by_cases hname : c.parser = name
    · rw [if_pos hname, List.filter_cons, if_pos (beq_iff_eq.2 hname), appendAll_cons]
    · rw [if_neg hname, List.filter_cons, if_neg (mt beq_iff_eq.1 hname)]

/-- Rows of other parsers do not change what a parser contributed. -/
theorem filter_appendAll_of_ne {name : String} {incoming : List (Contribution α)}
    (h : ∀ c ∈ incoming, c.parser ≠ name) (rows : List (Contribution α)) :
    (appendAll key rows incoming).filter (fun r => r.parser == name) =
      rows.filter fun r => r.parser == name := by
  have hnone : incoming.filter (fun r => r.parser == name) = [] :=
    List.filter_eq_nil_iff.2 fun c hc => by simpa using h c hc
  rw [filter_appendAll, hnone]
  rfl

/-- Two lists in which each parser has the same rows hold the same rows. -/
theorem perm_of_forall_filter [DecidableEq α] {rows others : List (Contribution α)}
    (h : ∀ name, rows.filter (fun r => r.parser == name) =
      others.filter fun r => r.parser == name) : rows.Perm others := by
  refine List.perm_iff_count.2 fun c => ?_
  have hcount : ∀ l : List (Contribution α),
      (l.filter fun r => r.parser == c.parser).count c = l.count c :=
    fun l => List.count_filter (beq_self_eq_true _)
  rw [← hcount rows, h c.parser, hcount]

end ValueLattice.Contribution
