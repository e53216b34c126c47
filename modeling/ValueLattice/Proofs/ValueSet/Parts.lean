/-
The parts of value sets that change their form on the wire: register numbers become words and get
a name when they are read, ranges become rows of bit patterns, and sets of words become lists. For
each of them, what reading accepts and that writing is undone by reading.
-/
import ValueLattice.ValueSet.Wire
import Mathlib.Data.List.Dedup
import Mathlib.Data.List.Sort

namespace ValueLattice

/-! ## Registers -/

namespace Register

open ValueSet (registerWord)

theorem toInt_registerWord (index : UInt32) : (registerWord index).toInt = index.toNat := by
  -- a register number has 32 bits, so the sign bit of its word is clear
  have hlt := index.toNat_lt
  have hbits : (registerWord index).toInt = index.toUInt64.toBitVec.toInt := rfl
  rw [hbits, BitVec.toInt_eq_toNat_of_lt]
  · simp
  · simp; omega

theorem registerWord_ofNat {value : Int64} (h : 0 ≤ value.toInt ∧ value.toInt < registerLimit) :
    registerWord (UInt32.ofNat value.toInt.toNat) = value := by
  unfold registerLimit at h
  have hlt : value.toInt.toNat < UInt32.size := by
    have : UInt32.size = 0x100000000 := rfl
    omega
  apply Int64.toInt_inj.1
  rw [toInt_registerWord, UInt32.toNat_ofNat_of_lt' hlt, Int.toNat_of_nonneg h.1]

/-- A word is read as a register exactly if it is the word of a register number. -/
theorem ofWire_eq_ok_iff {value : Int64} {arch : Option Architecture} {r : Register} :
    ofWire value arch = .ok r ↔ ∃ index, registerWord index = value ∧ r = resolve index arch := by
  unfold ofWire
  constructor
  · intro h
    split at h
    · next hin => cases h; exact ⟨_, registerWord_ofNat hin, rfl⟩
    · cases h
  · rintro ⟨index, rfl, rfl⟩
    have hlt := index.toNat_lt
    rw [toInt_registerWord, if_pos]
    · simp
    · unfold registerLimit; omega

theorem ofWire_eq_error_iff {value : Int64} {arch : Option Architecture} {e : ValueError} :
    ofWire value arch = .error e ↔
      ¬ (0 ≤ value.toInt ∧ value.toInt < registerLimit) ∧ e = .invalidRegisterIndex value := by
  unfold ofWire
  split
  · next hin => simp [hin]
  · next hout => simp only [Except.error.injEq, hout, not_false_eq_true, true_and, eq_comm]

/-- A number is still written as that number after it got its name. -/
theorem toIndex_resolve {arch : Option Architecture} (inverts : ∀ a ∈ arch, a.Inverts)
    (index : UInt32) : (resolve index arch).toIndex arch = .ok index := by
  cases arch with
  | none => rfl
  | some a =>
    unfold resolve
    cases hname : a.registerName index with
    | none => simp [hname, toIndex]
    | some n =>
      have hindex := inverts a rfl index n hname
      simp [hname, toIndex, hindex]

/-- Only a name can be refused: without an architecture, or by one that does not know it. -/
theorem toIndex_eq_error_iff {r : Register} {arch : Option Architecture} {e : ValueError} :
    r.toIndex arch = .error e ↔ ∃ n, r = .name n ∧
      (arch = none ∧ e = .missingArchitecture n ∨
        ∃ a, arch = some a ∧ a.registerIndex n = none ∧ e = .unresolvedRegister n) := by
  cases r with
  | index i => simp [toIndex]
  | name n =>
    cases arch with
    | none => simp [toIndex, eq_comm]
    | some a => cases hindex : a.registerIndex n <;> simp [toIndex, hindex, eq_comm]

/-- A register that can be written, under the name that reading would give it. -/
def named (r : Register) (arch : Option Architecture) : Register :=
  match r.toIndex arch with
  | .ok i => resolve i arch
  | .error _ => r

theorem named_eq {r : Register} {arch : Option Architecture} {i : UInt32}
    (h : r.toIndex arch = .ok i) : r.named arch = resolve i arch := by
  unfold named; rw [h]

end Register

/-! ## Ranges -/

namespace Range

variable {α : Type}

theorem build_eq_ok_iff {start stop : α} {step : UInt64} {r : Range α} :
    build start stop step = .ok r ↔ (r.start, r.stop, r.step) = (start, stop, step) := by
  obtain ⟨start', stop', step', hne⟩ := r
  unfold build
  constructor
  · intro h
    split at h
    · cases h; rfl
    · cases h
  · intro h
    cases h
    rw [dif_pos hne]

theorem build_eq_error_iff {start stop : α} {step : UInt64} {e : ValueError} :
    build start stop step = .error e ↔ step = 0 ∧ e = .invalidStep := by
  unfold build
  split
  · next hne => simp [hne]
  · next hzero =>
    constructor
    · intro h; cases h; exact ⟨not_not.1 hzero, rfl⟩
    · rintro ⟨-, rfl⟩; rfl

theorem buildAll_nil : buildAll ([] : List (α × α × UInt64)) = .ok [] := rfl

theorem buildAll_cons (row : α × α × UInt64) (rows : List (α × α × UInt64)) :
    buildAll (row :: rows) = (build row.1 row.2.1 row.2.2).bind fun r =>
      (buildAll rows).bind fun rs => .ok (r :: rs) := by
  unfold buildAll
  rw [List.mapM_cons]
  rfl

/-- Rows become ranges with the same bounds and steps, in the same order. -/
theorem buildAll_eq_ok_iff {rows : List (α × α × UInt64)} {rs : List (Range α)} :
    buildAll rows = .ok rs ↔ rs.map (fun r => (r.start, r.stop, r.step)) = rows := by
  induction rows generalizing rs with
  | nil => rw [buildAll_nil, Except.ok.injEq, List.map_eq_nil_iff]; exact eq_comm
  | cons row rows ih =>
    rw [buildAll_cons]
    constructor
    · intro h
      cases hr : build row.1 row.2.1 row.2.2 with
      | error e => rw [hr] at h; cases h
      | ok r =>
        cases hrs : buildAll rows with
        | error e => rw [hr, hrs] at h; cases h
        | ok rest =>
          rw [hr, hrs] at h
          cases h
          rw [List.map_cons, build_eq_ok_iff.1 hr, ih.1 hrs]
    · intro h
      cases rs with
      | nil => cases h
      | cons r rest =>
        rw [List.map_cons, List.cons.injEq] at h
        have hr := build_eq_ok_iff.2 h.1
        rw [hr, ih.2 h.2]
        rfl

/-- Rows are refused exactly if one of them has a zero step. -/
theorem buildAll_eq_error_iff {rows : List (α × α × UInt64)} {e : ValueError} :
    buildAll rows = .error e ↔ (∃ row ∈ rows, row.2.2 = 0) ∧ e = .invalidStep := by
  induction rows with
  | nil => simp [buildAll_nil]
  | cons row rows ih =>
    rw [buildAll_cons]
    cases hr : build row.1 row.2.1 row.2.2 with
    | error e' =>
      obtain ⟨hzero, rfl⟩ := build_eq_error_iff.1 hr
      simp [Except.bind, hzero, eq_comm]
    | ok r =>
      have hne : row.2.2 ≠ 0 := by
        rw [← congrArg (fun t => t.2.2) (build_eq_ok_iff.1 hr)]; exact r.step_ne_zero
      rw [Except.bind]
      simp only [List.mem_cons, exists_eq_or_imp, hne, false_or, ← ih]
      cases buildAll rows <;> simp [Except.bind]

end Range

/-! ## Sets of words -/

namespace IntSet

theorem nodup_of_ascending {vs : List Int64} (hvs : vs.Pairwise (· < ·)) : vs.Nodup :=
  hvs.imp fun hlt => Int64.ne_of_lt hlt

/-- There is one ascending list of given members. -/
theorem eq_of_ascending {vs ws : List Int64} (hvs : vs.Pairwise (· < ·))
    (hws : ws.Pairwise (· < ·)) (h : ∀ v, v ∈ vs ↔ v ∈ ws) : vs = ws := by
  have hperm :=
    (List.perm_ext_iff_of_nodup (nodup_of_ascending hvs) (nodup_of_ascending hws)).2 h
  refine hperm.eq_of_pairwise (fun v w _ _ hvw hwv => ?_) hvs hws
  exact absurd (Int64.lt_trans hvw hwv) (Int64.lt_irrefl)

theorem ofList_members (s : IntSet) : ofList s.members = s := by
  have h := eq_of_ascending (ofList s.members).ascending s.ascending fun _ => mem_ofList
  generalize ofList s.members = t at h
  obtain ⟨members, ascending⟩ := t
  cases h
  rfl

/-- The members of a set made of a list are that list, sorted and without repetitions. -/
theorem members_ofList (vs : List Int64) :
    (ofList vs).members = vs.dedup.mergeSort fun v w => decide (v ≤ w) := by
  refine eq_of_ascending (ofList vs).ascending ?_ fun v => by
    rw [mem_ofList, List.mem_mergeSort, List.mem_dedup]
  -- a sorted list without repetitions ascends strictly
  have hle := @List.pairwise_mergeSort _ (fun v w : Int64 => decide (v ≤ w))
    (by simpa using fun a b c => Int64.le_trans) (by simpa using Int64.le_total) vs.dedup
  have hne : (vs.dedup.mergeSort fun v w => decide (v ≤ w)).Nodup :=
    (List.mergeSort_perm _ _).nodup_iff.2 vs.nodup_dedup
  exact hle.imp₂ (fun v w hvw hnvw => Int64.lt_of_le_of_ne (by simpa using hvw) hnvw) hne

end IntSet

end ValueLattice
