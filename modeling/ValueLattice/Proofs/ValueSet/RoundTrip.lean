/-
Writing a value set and reading it back. Only an entry value by a name can be refused, and then the
architecture is missing or does not know the name. What is written reads back as the same value
set, with its bounds, offsets, table entries, flat mapping and members; only an entry register
comes back under the name that the architecture gives to its number, and it keeps that name.
-/
import ValueLattice.Proofs.Architecture
import ValueLattice.Proofs.ValueSet.Parts

namespace ValueLattice.ValueSet

/-- The value set with its entry register, if it has one, under the name of the architecture. -/
def named (s : ValueSet) (arch : Option Architecture) : ValueSet :=
  match s with
  | entry r => .entry (r.named arch)
  | other => other

/-! ## Reading by kind -/

theorem decode_of_state (kind : Kind) {raw : WireValueSet} (h : raw.state = kind.tag)
    (arch : Option Architecture) : decode raw arch = decodeAs kind raw arch := by
  unfold decode
  rw [h, Kind.ofTag?_tag]

theorem checkCount_self (n : Nat) : checkCount n n = .ok () :=
  if_pos rfl

theorem checkCount_eq_ok_iff {count present : Nat} :
    checkCount count present = .ok () ↔ count = present := by
  unfold checkCount
  split <;> simp_all

theorem checkCount_eq_error_iff {count present : Nat} {e : ValueError} :
    checkCount count present = .error e ↔ count ≠ present ∧ e = .countMismatch present count := by
  unfold checkCount
  split
  · simp_all
  · next hne => simp only [Except.error.injEq, ne_eq, hne, not_false_eq_true, true_and, eq_comm]

/-! ## What writing refuses -/

theorem encode_entry (r : Register) (arch : Option Architecture) :
    (entry r).encode arch = (r.toIndex arch).map fun i =>
      { WireValueSet.blank .entryValue with value := registerWord i } := rfl

theorem encode_eq_error_iff {s : ValueSet} {arch : Option Architecture} {e : ValueError} :
    s.encode arch = .error e ↔ ∃ r, s = .entry r ∧ r.toIndex arch = .error e := by
  cases s with
  | entry r => cases hr : r.toIndex arch <;> simp [encode_entry, hr, Except.map]
  | _ => simp [encode]

/-! ## What is read back -/

theorem decode_encode_entry {r : Register} {arch : Option Architecture} {raw : WireValueSet}
    (h : (entry r).encode arch = .ok raw) : decode raw arch = .ok (.entry (r.named arch)) := by
  rw [encode_entry] at h
  cases hr : r.toIndex arch with
  | error e => rw [hr] at h; cases h
  | ok i =>
    rw [hr] at h
    cases h
    have hread : Register.ofWire (registerWord i) arch = .ok (.resolve i arch) :=
      Register.ofWire_eq_ok_iff.2 ⟨i, rfl, rfl⟩
    rw [decode_of_state .entryValue rfl, decodeAs, hread, Register.named_eq hr]
    rfl

theorem decode_encode_signedRanges (offset : Int64) (ranges : List (Range Int64))
    {arch : Option Architecture} {raw : WireValueSet}
    (h : (signedRanges offset ranges).encode arch = .ok raw) :
    decode raw arch = .ok (.signedRanges offset ranges) := by
  cases h
  -- a signed bound is written as its bit pattern, and reading takes the pattern as a signed word
  have hbuild := Range.buildAll_eq_ok_iff.2
    (rfl : ranges.map (fun r => (r.start, r.stop, r.step)) = _)
  rw [decode_of_state .signedRange rfl, decodeAs]
  simp only [List.length_map, checkCount_self, List.map_map, Function.comp_def,
    Int64.toInt64_toUInt64, hbuild]
  rfl

theorem decode_encode_unsignedRanges (offset : Int64) (ranges : List (Range UInt64))
    {arch : Option Architecture} {raw : WireValueSet}
    (h : (unsignedRanges offset ranges).encode arch = .ok raw) :
    decode raw arch = .ok (.unsignedRanges offset ranges) := by
  cases h
  have hbuild := Range.buildAll_eq_ok_iff.2
    (rfl : ranges.map (fun r => (r.start, r.stop, r.step)) = _)
  rw [decode_of_state .unsignedRange rfl, decodeAs]
  simp only [List.length_map, checkCount_self, List.map_map, Function.comp_def, hbuild]
  rfl

theorem decode_encode_table (t : LookupTable) {arch : Option Architecture} {raw : WireValueSet}
    (h : (table t).encode arch = .ok raw) : decode raw arch = .ok (.table t) := by
  cases h
  have htable : LookupTable.ofEntries t.entries = t :=
    LookupTable.ext_entries (LookupTable.entries_ofEntries t.entries)
  rw [decode_of_state .lookupTable rfl, decodeAs]
  simp only [checkCount_self, htable]
  rfl

theorem decode_encode_inSet (values : IntSet) {arch : Option Architecture} {raw : WireValueSet}
    (h : (inSet values).encode arch = .ok raw) : decode raw arch = .ok (.inSet values) := by
  cases h
  rw [decode_of_state .inSet rfl, decodeAs]
  simp only [IntSet.size, checkCount_self, IntSet.ofList_members]
  rfl

theorem decode_encode_notInSet (values : IntSet) {arch : Option Architecture} {raw : WireValueSet}
    (h : (notInSet values).encode arch = .ok raw) : decode raw arch = .ok (.notInSet values) := by
  cases h
  rw [decode_of_state .notInSet rfl, decodeAs]
  simp only [IntSet.size, checkCount_self, IntSet.ofList_members]
  rfl

/-- What is written reads back as the value set with its register named. -/
theorem decode_of_encode {s : ValueSet} {arch : Option Architecture} {raw : WireValueSet}
    (h : s.encode arch = .ok raw) : decode raw arch = .ok (s.named arch) := by
  cases s with
  | entry r => exact decode_encode_entry h
  | signedRanges offset ranges => exact decode_encode_signedRanges offset ranges h
  | unsignedRanges offset ranges => exact decode_encode_unsignedRanges offset ranges h
  | table t => exact decode_encode_table t h
  | inSet values => exact decode_encode_inSet values h
  | notInSet values => exact decode_encode_notInSet values h
  | undetermined => cases h; rfl
  | constant v => cases h; rfl
  | constantPointer v => cases h; rfl
  | stackOffset v => cases h; rfl
  | returnAddress => cases h; rfl
  | imported v => cases h; rfl

/-- Naming the register changes nothing on the wire. -/
theorem encode_named {s : ValueSet} {arch : Option Architecture} {raw : WireValueSet}
    (inverts : ∀ a ∈ arch, a.Inverts) (h : s.encode arch = .ok raw) :
    (s.named arch).encode arch = .ok raw := by
  cases s with
  | entry r =>
    cases hr : r.toIndex arch with
    | error e => rw [encode_entry, hr] at h; cases h
    | ok i =>
      -- the name that reading gives leads back to the number that was written
      have hagain := Register.toIndex_resolve inverts i
      rw [← h, named, encode_entry, encode_entry, Register.named_eq hr, hagain, hr]
  | _ => exact h

/-! ## The round trip -/

/-- Writing is refused exactly for an entry value by a name without an architecture or unknown to
it. Otherwise reading back gives the same value set, up to the name of an entry register, and
after that a round trip changes nothing. -/
theorem decode_encode (s : ValueSet) (arch : Option Architecture)
    (inverts : ∀ a ∈ arch, a.Inverts) :
    (∀ e, s.encode arch = .error e ↔ ∃ n, s = .entry (.name n) ∧
      (arch = none ∧ e = .missingArchitecture n ∨
        ∃ a, arch = some a ∧ a.registerIndex n = none ∧ e = .unresolvedRegister n)) ∧
    ∀ raw, s.encode arch = .ok raw →
      decode raw arch = .ok (s.named arch) ∧
      (∀ r i, s = .entry r → r.toIndex arch = .ok i →
        s.named arch = .entry (Register.resolve i arch)) ∧
      (s.reg? = none → s.named arch = s) ∧
      ((s.named arch).encode arch).bind (fun again => decode again arch) =
        .ok (s.named arch) := by
  refine ⟨fun e => ?_, fun raw h => ⟨decode_of_encode h, ?_, ?_, ?_⟩⟩
  · rw [encode_eq_error_iff]
    constructor
    · rintro ⟨r, rfl, hr⟩
      obtain ⟨n, rfl, hn⟩ := Register.toIndex_eq_error_iff.1 hr
      exact ⟨n, rfl, hn⟩
    · rintro ⟨n, rfl, hn⟩
      exact ⟨.name n, rfl, Register.toIndex_eq_error_iff.2 ⟨n, rfl, hn⟩⟩
  · rintro r i rfl hi
    rw [named, Register.named_eq hi]
  · intro hreg
    cases s with
    | entry r => cases hreg
    | _ => rfl
  · rw [encode_named inverts h]
    exact decode_of_encode h

/-- An alias comes back as the name of its number, and a name of another machine is refused. -/
theorem decode_encode_alias :
    (∀ a ∈ some Machine.riscv.architecture, a.Inverts) ∧
    (∃ raw, (entry (.name "ra")).encode (some Machine.riscv.architecture) = .ok raw ∧
      decode raw (some Machine.riscv.architecture) = .ok (.entry (.name "x1"))) ∧
    (entry (.name "rax")).encode (some Machine.riscv.architecture) =
      .error (.unresolvedRegister "rax") := by
  have inverts := Machine.inverts_of_mem .riscv
  have known := decode_encode (entry (.name "ra")) _ inverts
  have unknown := decode_encode (entry (.name "rax")) _ inverts
  refine ⟨inverts, ⟨⟨1, 1, [], [], [], 0⟩, rfl, (known.2 _ rfl).1⟩, (unknown.1 _).2 ?_⟩
  exact ⟨"rax", rfl, .inr ⟨_, rfl, by decide +kernel, rfl⟩⟩

end ValueLattice.ValueSet
