/-
What a lookup table answers. Each entry that comes in overwrites the answers for its own inputs and
no others, so the answer for an input is the output of the last entry that has it, however the
entries came in: all at once, off the wire, or one after the other.
-/
import Mathlib.Data.List.Induction
import ValueLattice.Proofs.Keyed
import ValueLattice.ValueSet.Wire

namespace ValueLattice

theorem TableEntry.get?_addTo (m : Keyed Int64 Int64) (e : TableEntry) (v : Int64) :
    (e.addTo m).get? v = if v ∈ e.inputs then some e.output else m.get? v := by
  obtain ⟨inputs, output⟩ := e
  unfold addTo
  dsimp only
  induction inputs generalizing m with
  | nil => simp
  | cons w ws ih =>
    rw [List.foldl_cons, ih, Keyed.get?_put]
    by_cases hlater : v ∈ ws
    · simp [hlater]
    · by_cases hw : w = v
      · simp [hw]
      · simp [hlater, hw, Ne.symm hw]

namespace ValueSet

variable {raw : WireValueSet} {arch : Option Architecture} {s : ValueSet}

theorem eq_ok_of_checkCount_bind {count present : Nat} {f : Unit → Except ValueError ValueSet}
    (h : (checkCount count present >>= f) = .ok s) : f () = .ok s := by
  cases hcount : checkCount count present with
  | error e => rw [hcount] at h; cases h
  | ok _ => rw [hcount] at h; exact h

/-- A table that is read off the wire is built from the entries of the wire value. -/
theorem eq_ofEntries_of_decode {t : LookupTable} (h : decode raw arch = .ok (.table t)) :
    t = LookupTable.ofEntries raw.table := by
  unfold decode at h
  split at h
  · cases h
  · next kind _ =>
    cases kind with
    | lookupTable =>
      cases eq_ok_of_checkCount_bind h
      rfl
    | entryValue =>
      rw [decodeAs] at h
      cases hread : Register.ofWire raw.value arch <;> rw [hread] at h <;> cases h
    | signedRange =>
      replace h := eq_ok_of_checkCount_bind h
      cases hbuild : Range.buildAll
        (raw.ranges.map fun r => (r.start.toInt64, r.stop.toInt64, r.step)) <;>
        rw [hbuild] at h <;> cases h
    | unsignedRange =>
      replace h := eq_ok_of_checkCount_bind h
      cases hbuild : Range.buildAll (raw.ranges.map fun r => (r.start, r.stop, r.step)) <;>
        rw [hbuild] at h <;> cases h
    | inSet => cases eq_ok_of_checkCount_bind h
    | notInSet => cases eq_ok_of_checkCount_bind h
    | _ => cases h

end ValueSet

namespace LookupTable

variable {es fs : List TableEntry} {t u : LookupTable} {v w : Int64}

/-! ## One entry and several -/

/-- A new entry changes the answers for its own inputs. -/
theorem resolve_push (t : LookupTable) (e : TableEntry) (v : Int64) :
    (t.push e).resolve v = if v ∈ e.inputs then some e.output else t.resolve v :=
  e.get?_addTo t.mapping v

theorem ofEntries_append (es fs : List TableEntry) :
    ofEntries (es ++ fs) = fs.foldl push (ofEntries es) :=
  List.foldl_append

/-- The answer is found by a search for the input from the last entry on. -/
theorem resolve_ofEntries (es : List TableEntry) (v : Int64) :
    (ofEntries es).resolve v =
      (es.reverse.find? fun e => v ∈ e.inputs).map TableEntry.output := by
  induction es using List.reverseRecOn with
  | nil => rfl
  | append_singleton es e ih =>
    rw [ofEntries_append, List.reverse_append, List.reverse_singleton, List.singleton_append,
      List.find?_cons]
    show ((ofEntries es).push e).resolve v = _
    rw [resolve_push]
    by_cases he : v ∈ e.inputs
    · simp [he]
    · simp [he, ih]

theorem resolve_ofEntries_eq_some_iff : (ofEntries es).resolve v = some w ↔
    ∃ before e after, es = before ++ e :: after ∧ v ∈ e.inputs ∧ e.output = w ∧
      ∀ f ∈ after, v ∉ f.inputs := by
  rw [resolve_ofEntries, Option.map_eq_some_iff]
  constructor
  · rintro ⟨e, hfind, rfl⟩
    obtain ⟨he, later, earlier, hes, hlater⟩ := List.find?_eq_some_iff_append.1 hfind
    refine ⟨earlier.reverse, e, later.reverse, ?_, by simpa using he, rfl, fun f hf => ?_⟩
    · rw [← List.reverse_reverse es, hes]
      simp
    · simpa using hlater f (List.mem_reverse.1 hf)
  · rintro ⟨before, e, after, rfl, he, rfl, hafter⟩
    refine ⟨e, List.find?_eq_some_iff_append.2
      ⟨by simpa using he, after.reverse, before.reverse, by simp, fun f hf => ?_⟩, rfl⟩
    simpa using hafter f (List.mem_reverse.1 hf)

theorem resolve_ofEntries_eq_none_iff :
    (ofEntries es).resolve v = none ↔ ∀ e ∈ es, v ∉ e.inputs := by
  rw [resolve_ofEntries, Option.map_eq_none_iff, List.find?_eq_none]
  simp

/-- Entries at the end are asked first. -/
theorem resolve_ofEntries_append (es fs : List TableEntry) (v : Int64) :
    (ofEntries (es ++ fs)).resolve v =
      ((ofEntries fs).resolve v).or ((ofEntries es).resolve v) := by
  simp only [resolve_ofEntries, List.reverse_append, List.find?_append, Option.map_or]

/-! ## Tables as they come about -/

/-- How a table comes about, and the entries that went into it. -/
inductive Built : List TableEntry → LookupTable → Prop
  | ofEntries (es : List TableEntry) : Built es (ofEntries es)
  | decoded {raw : WireValueSet} {arch : Option Architecture} {t : LookupTable} :
      ValueSet.decode raw arch = .ok (.table t) → Built raw.table t
  | push {es : List TableEntry} {t : LookupTable} (e : TableEntry) :
      Built es t → Built (es ++ [e]) (t.push e)

/-- The entries alone decide what table comes about, with its mapping. -/
theorem Built.eq_ofEntries (h : Built es t) : t = LookupTable.ofEntries es := by
  induction h with
  | ofEntries es => rfl
  | decoded h => exact ValueSet.eq_ofEntries_of_decode h
  | push e _ ih =>
    rw [ih, ofEntries_append]
    rfl

theorem entries_eq_of_beq (h : (t == u) = true) : t.entries = u.entries :=
  beq_iff_eq.1 (show (t.entries == u.entries) = true from h)

/-- A table answers with the output of the last entry that has the input, and does not answer if
there is none; the keys of its mapping are the inputs of its entries. It is the same table whether
its entries came in at once or one after the other, tables with equal entries answer alike, and of
two lists of entries put together the later one is asked first. -/
theorem resolve_built (h : Built es t) :
    t.entries = es ∧
    (∀ v w, t.resolve v = some w ↔ ∃ before e after, es = before ++ e :: after ∧ v ∈ e.inputs ∧
      e.output = w ∧ ∀ f ∈ after, v ∉ f.inputs) ∧
    (∀ v, t.resolve v = none ↔ ∀ e ∈ es, v ∉ e.inputs) ∧
    (∀ v, v ∈ t.mapping.rows.map Prod.fst ↔ ∃ e ∈ es, v ∈ e.inputs) ∧
    (∀ more, more.foldl push t = ofEntries (es ++ more)) ∧
    ∀ fs u, Built fs u → ((t == u) = true → ∀ v, t.resolve v = u.resolve v) ∧
      ∀ v, (ofEntries (es ++ fs)).resolve v = (u.resolve v).or (t.resolve v) := by
  obtain rfl := h.eq_ofEntries
  refine ⟨entries_ofEntries es, fun v w => resolve_ofEntries_eq_some_iff,
    fun v => resolve_ofEntries_eq_none_iff, fun v => ?_,
    fun more => (ofEntries_append es more).symm, fun fs u hu => ?_⟩
  · have hnone : (ofEntries es).resolve v = none ↔ _ := Keyed.get?_eq_none_iff
    rw [← not_iff_not, ← hnone, resolve_ofEntries_eq_none_iff]
    simp
  · obtain rfl := hu.eq_ofEntries
    refine ⟨fun heq v => ?_, resolve_ofEntries_append es fs⟩
    have hentries := entries_eq_of_beq heq
    rw [entries_ofEntries, entries_ofEntries] at hentries
    rw [hentries]

/-- A table off the wire whose second entry takes an input over from the first, and a third entry
that is pushed and takes the other one. -/
theorem resolve_built_overwritten : ∃ t,
    ValueSet.decode ⟨9, 0, [], [⟨[16, 17], 1⟩, ⟨[16], 2⟩], [], 2⟩ none = .ok (.table t) ∧
    (t.push ⟨[17], 3⟩).resolve 16 = some 2 ∧ (t.push ⟨[17], 3⟩).resolve 17 = some 3 ∧
    (t.push ⟨[17], 3⟩).resolve 18 = none := by
  have hdecode : ValueSet.decode ⟨9, 0, [], [⟨[16, 17], 1⟩, ⟨[16], 2⟩], [], 2⟩ none =
    .ok (.table (ofEntries [⟨[16, 17], 1⟩, ⟨[16], 2⟩])) := rfl
  refine ⟨_, hdecode, ?_⟩
  have hbuilt := (Built.decoded hdecode).push ⟨[17], 3⟩
  obtain ⟨-, hsome, hnone, -⟩ := resolve_built hbuilt
  refine ⟨(hsome 16 2).2 ⟨[⟨[16, 17], 1⟩], ⟨[16], 2⟩, [⟨[17], 3⟩], rfl, by decide, rfl, by decide⟩,
    (hsome 17 3).2 ⟨[⟨[16, 17], 1⟩, ⟨[16], 2⟩], ⟨[17], 3⟩, [], rfl, by decide, rfl, by decide⟩,
    (hnone 18).2 (by decide)⟩

end LookupTable

end ValueLattice
