/-
Which wire values can be read, and what they are written back as. A wire value is read exactly if
it is well-formed for its state, and each way of being malformed has its own error, where a wrong
count comes before a zero step. What was read is written as the normal form of the wire value: the
fields that its state does not use are blank, the members of a set are sorted and stand once, and
the count is that of the list. Ranges come back bit for bit, and the normal form reads as the same
value set again.
-/
import ValueLattice.Proofs.ValueSet.RoundTrip

namespace ValueLattice

namespace Kind

theorem tag_le (k : Kind) : k.tag ≤ 11 := by
  cases k <;> decide

theorem exists_tag_eq {state : UInt32} (h : state ≤ 11) : ∃ k : Kind, k.tag = state := by
  have hall : ∀ n : Fin 12, ((all.get n).tag = UInt32.ofNat n) := by decide
  have hn : state.toNat < 12 := by
    have : state.toNat ≤ 11 := UInt32.le_iff_toNat_le.1 h
    omega
  exact ⟨all.get ⟨state.toNat, hn⟩, (hall ⟨state.toNat, hn⟩).trans (UInt32.ofNat_toNat)⟩

theorem ofTag?_eq_none {state : UInt32} (h : 11 < state) : ofTag? state = none := by
  rcases hk : ofTag? state with _ | k
  · rfl
  · rw [← tag_of_ofTag? hk] at h
    exact absurd (tag_le k) (UInt32.not_le.2 h)

end Kind

/-! ## Well-formed wire values -/

namespace WireValueSet

/-- What the state of a wire value demands of its other fields; registers are numbered below
`2 ^ 32`. -/
structure WellFormed (raw : WireValueSet) : Prop where
  state : raw.state ≤ 11
  register : raw.state = 1 → 0 ≤ raw.value.toInt ∧ raw.value.toInt < 0x100000000
  ranges : raw.state = 7 ∨ raw.state = 8 →
    raw.count = raw.ranges.length ∧ ∀ r ∈ raw.ranges, r.step ≠ 0
  table : raw.state = 9 → raw.count = raw.table.length
  values : raw.state = 10 ∨ raw.state = 11 → raw.count = raw.values.length

/-- The error that a malformed wire value causes. -/
inductive Refused (raw : WireValueSet) : ValueError → Prop
  | state : 11 < raw.state → Refused raw (.unknownState raw.state)
  | register : raw.state = 1 → ¬ (0 ≤ raw.value.toInt ∧ raw.value.toInt < 0x100000000) →
      Refused raw (.invalidRegisterIndex raw.value)
  | rangeCount : raw.state = 7 ∨ raw.state = 8 → raw.count ≠ raw.ranges.length →
      Refused raw (.countMismatch raw.ranges.length raw.count)
  | rangeStep : raw.state = 7 ∨ raw.state = 8 → raw.count = raw.ranges.length →
      (∃ r ∈ raw.ranges, r.step = 0) → Refused raw .invalidStep
  | tableCount : raw.state = 9 → raw.count ≠ raw.table.length →
      Refused raw (.countMismatch raw.table.length raw.count)
  | valueCount : raw.state = 10 ∨ raw.state = 11 → raw.count ≠ raw.values.length →
      Refused raw (.countMismatch raw.values.length raw.count)

theorem wellFormed_or_refused (raw : WireValueSet) : raw.WellFormed ∨ ∃ e, raw.Refused e := by
  by_contra hneither
  push Not at hneither
  obtain ⟨hmal, hnot⟩ := hneither
  -- what the value is not refused for it satisfies; steps are looked at only after the count
  refine hmal ⟨?_, fun h => ?_, fun h => ?_, fun h => ?_, fun h => ?_⟩
  · exact UInt32.not_lt.1 fun hlt => hnot _ (.state hlt)
  · exact not_not.1 fun hout => hnot _ (.register h hout)
  · have hcount : raw.count = raw.ranges.length := not_not.1 fun hne => hnot _ (.rangeCount h hne)
    exact ⟨hcount, fun r hr hzero => hnot _ (.rangeStep h hcount ⟨r, hr, hzero⟩)⟩
  · exact not_not.1 fun hne => hnot _ (.tableCount h hne)
  · exact not_not.1 fun hne => hnot _ (.valueCount h hne)

/-- The wire value without what its state does not use, with the members of a set in order. -/
def normal (raw : WireValueSet) : WireValueSet :=
  let ranges := if raw.state = 7 ∨ raw.state = 8 then raw.ranges else []
  let table := if raw.state = 9 then raw.table else []
  let values := if raw.state = 10 ∨ raw.state = 11 then
    raw.values.dedup.mergeSort fun v w => decide (v ≤ w) else []
  { state := raw.state
    value := if raw.state ∈ [1, 2, 3, 4, 6, 7, 8] then raw.value else 0
    ranges, table, values
    count := ranges.length + table.length + values.length }

section Normal

variable {raw : WireValueSet}

theorem normal_of_blank (h : raw.state = 0 ∨ raw.state = 5) :
    raw.normal = ⟨raw.state, 0, [], [], [], 0⟩ := by
  rcases h with h | h <;> simp [normal, h]

theorem normal_of_value (h : raw.state ∈ [1, 2, 3, 4, 6]) :
    raw.normal = ⟨raw.state, raw.value, [], [], [], 0⟩ := by
  simp only [List.mem_cons, List.not_mem_nil, or_false] at h
  rcases h with h | h | h | h | h <;> simp [normal, h]

theorem normal_of_ranges (h : raw.state = 7 ∨ raw.state = 8) :
    raw.normal = ⟨raw.state, raw.value, raw.ranges, [], [], raw.ranges.length⟩ := by
  rcases h with h | h <;> simp [normal, h]

theorem normal_of_table (h : raw.state = 9) :
    raw.normal = ⟨raw.state, 0, [], raw.table, [], raw.table.length⟩ := by
  simp [normal, h]

theorem normal_of_values (h : raw.state = 10 ∨ raw.state = 11) :
    raw.normal = ⟨raw.state, 0, [], [], (IntSet.ofList raw.values).members,
      (IntSet.ofList raw.values).size⟩ := by
  rw [IntSet.size, IntSet.members_ofList]
  rcases h with h | h <;> simp [normal, h]

end Normal

end WireValueSet

namespace ValueSet

open WireValueSet

variable {raw : WireValueSet} {arch : Option Architecture}

/-! ## Refusals -/

theorem decode_rangeCount (h : raw.state = 7 ∨ raw.state = 8)
    (hcount : raw.count ≠ raw.ranges.length) :
    decode raw arch = .error (.countMismatch raw.ranges.length raw.count) := by
  have hcheck := checkCount_eq_error_iff.2 ⟨hcount, rfl⟩
  rcases h with h | h
  · rw [decode_of_state .signedRange h, decodeAs, hcheck]; rfl
  · rw [decode_of_state .unsignedRange h, decodeAs, hcheck]; rfl

theorem decode_rangeStep (h : raw.state = 7 ∨ raw.state = 8)
    (hcount : raw.count = raw.ranges.length) (hzero : ∃ r ∈ raw.ranges, r.step = 0) :
    decode raw arch = .error .invalidStep := by
  have hcheck := checkCount_eq_ok_iff.2 hcount
  obtain ⟨r, hr, hzero⟩ := hzero
  rcases h with h | h
  · have hrow := List.mem_map_of_mem (f := fun r => (r.start.toInt64, r.stop.toInt64, r.step)) hr
    have hbuild := Range.buildAll_eq_error_iff.2 ⟨⟨_, hrow, hzero⟩, rfl⟩
    rw [decode_of_state .signedRange h, decodeAs, hcheck, hbuild]; rfl
  · have hrow := List.mem_map_of_mem (f := fun r => (r.start, r.stop, r.step)) hr
    have hbuild := Range.buildAll_eq_error_iff.2 ⟨⟨_, hrow, hzero⟩, rfl⟩
    rw [decode_of_state .unsignedRange h, decodeAs, hcheck, hbuild]; rfl

theorem decode_of_refused {e : ValueError} (h : raw.Refused e) : decode raw arch = .error e := by
  cases h with
  | state h => unfold decode; rw [Kind.ofTag?_eq_none h]
  | register h hout =>
    have hread : Register.ofWire raw.value arch = .error _ :=
      Register.ofWire_eq_error_iff.2 ⟨hout, rfl⟩
    rw [decode_of_state .entryValue h, decodeAs, hread]; rfl
  | rangeCount h hne => exact decode_rangeCount h hne
  | rangeStep h hcount hzero => exact decode_rangeStep h hcount hzero
  | tableCount h hne =>
    rw [decode_of_state .lookupTable h, decodeAs, checkCount_eq_error_iff.2 ⟨hne, rfl⟩]; rfl
  | valueCount h hne =>
    have hcheck := checkCount_eq_error_iff.2 ⟨hne, rfl⟩
    rcases h with h | h
    · rw [decode_of_state .inSet h, decodeAs, hcheck]; rfl
    · rw [decode_of_state .notInSet h, decodeAs, hcheck]; rfl

/-! ## Acceptance -/

/-- The wire value stands for a value set that is written as its normal form and has its register
named already. -/
def Normalizes (raw : WireValueSet) (arch : Option Architecture) : Prop :=
  ∃ s, decode raw arch = .ok s ∧ s.encode arch = .ok raw.normal ∧ s.named arch = s

theorem normalizes_entry (inverts : ∀ a ∈ arch, a.Inverts) (h : raw.state = 1)
    (hin : 0 ≤ raw.value.toInt ∧ raw.value.toInt < 0x100000000) : Normalizes raw arch := by
  have hword := Register.registerWord_ofNat hin
  generalize UInt32.ofNat raw.value.toInt.toNat = i at hword
  have hread : Register.ofWire raw.value arch = .ok (.resolve i arch) :=
    Register.ofWire_eq_ok_iff.2 ⟨i, hword, rfl⟩
  have hwrite := Register.toIndex_resolve inverts i
  refine ⟨.entry (.resolve i arch), ?_, ?_, ?_⟩
  · rw [decode_of_state .entryValue h, decodeAs, hread]; rfl
  · rw [encode_entry, hwrite, normal_of_value (by simp [h]), h, ← hword]; rfl
  · rw [named, Register.named_eq hwrite]

theorem exists_buildAll_eq_ok {α : Type} (rows : List (α × α × UInt64))
    (hstep : ∀ row ∈ rows, row.2.2 ≠ 0) : ∃ rs, Range.buildAll rows = .ok rs := by
  rcases hbuild : Range.buildAll rows with e | rs
  · obtain ⟨⟨row, hrow, hzero⟩, -⟩ := Range.buildAll_eq_error_iff.1 hbuild
    exact absurd hzero (hstep row hrow)
  · exact ⟨rs, rfl⟩

theorem decode_signedRanges {rs : List (Range Int64)} (h : raw.state = 7)
    (hcount : raw.count = raw.ranges.length)
    (hbuild : Range.buildAll
      (raw.ranges.map fun r => (r.start.toInt64, r.stop.toInt64, r.step)) = .ok rs) :
    decode raw arch = .ok (.signedRanges raw.value rs) := by
  rw [decode_of_state .signedRange h, decodeAs, checkCount_eq_ok_iff.2 hcount, hbuild]; rfl

theorem decode_unsignedRanges {rs : List (Range UInt64)} (h : raw.state = 8)
    (hcount : raw.count = raw.ranges.length)
    (hbuild : Range.buildAll (raw.ranges.map fun r => (r.start, r.stop, r.step)) = .ok rs) :
    decode raw arch = .ok (.unsignedRanges raw.value rs) := by
  rw [decode_of_state .unsignedRange h, decodeAs, checkCount_eq_ok_iff.2 hcount, hbuild]; rfl

theorem normalizes_signedRanges (h : raw.state = 7) (hcount : raw.count = raw.ranges.length)
    (hstep : ∀ r ∈ raw.ranges, r.step ≠ 0) : Normalizes raw arch := by
  obtain ⟨rs, hbuild⟩ := exists_buildAll_eq_ok
    (raw.ranges.map fun r => (r.start.toInt64, r.stop.toInt64, r.step)) (by simpa using hstep)
  have hrows := Range.buildAll_eq_ok_iff.1 hbuild
  have hback : rs.map (fun r => (⟨r.start.toUInt64, r.stop.toUInt64, r.step⟩ : WireRange)) =
      raw.ranges :=
    calc _ = (rs.map fun r => (r.start, r.stop, r.step)).map fun row =>
          ⟨row.1.toUInt64, row.2.1.toUInt64, row.2.2⟩ := by simp [Function.comp_def]
      _ = raw.ranges := by simp [hrows, Function.comp_def]
  refine ⟨.signedRanges raw.value rs, decode_signedRanges h hcount hbuild, ?_, rfl⟩
  rw [normal_of_ranges (.inl h), h, ← hback, List.length_map]; rfl

theorem normalizes_unsignedRanges (h : raw.state = 8) (hcount : raw.count = raw.ranges.length)
    (hstep : ∀ r ∈ raw.ranges, r.step ≠ 0) : Normalizes raw arch := by
  obtain ⟨rs, hbuild⟩ := exists_buildAll_eq_ok
    (raw.ranges.map fun r => (r.start, r.stop, r.step)) (by simpa using hstep)
  have hrows := Range.buildAll_eq_ok_iff.1 hbuild
  have hback : rs.map (fun r => (⟨r.start, r.stop, r.step⟩ : WireRange)) = raw.ranges :=
    calc _ = (rs.map fun r => (r.start, r.stop, r.step)).map fun row =>
          ⟨row.1, row.2.1, row.2.2⟩ := by simp [Function.comp_def]
      _ = raw.ranges := by simp [hrows, Function.comp_def]
  refine ⟨.unsignedRanges raw.value rs, decode_unsignedRanges h hcount hbuild, ?_, rfl⟩
  rw [normal_of_ranges (.inr h), h, ← hback, List.length_map]; rfl

theorem normalizes_table (h : raw.state = 9) (hcount : raw.count = raw.table.length) :
    Normalizes raw arch := by
  refine ⟨.table (.ofEntries raw.table), ?_, ?_, rfl⟩
  · rw [decode_of_state .lookupTable h, decodeAs, checkCount_eq_ok_iff.2 hcount]; rfl
  · rw [normal_of_table h, h, encode, LookupTable.entries_ofEntries]; rfl

theorem normalizes_inSet (h : raw.state = 10) (hcount : raw.count = raw.values.length) :
    Normalizes raw arch := by
  refine ⟨.inSet (.ofList raw.values), ?_, ?_, rfl⟩
  · rw [decode_of_state .inSet h, decodeAs, checkCount_eq_ok_iff.2 hcount]; rfl
  · rw [normal_of_values (.inl h), h]; rfl

theorem normalizes_notInSet (h : raw.state = 11) (hcount : raw.count = raw.values.length) :
    Normalizes raw arch := by
  refine ⟨.notInSet (.ofList raw.values), ?_, ?_, rfl⟩
  · rw [decode_of_state .notInSet h, decodeAs, checkCount_eq_ok_iff.2 hcount]; rfl
  · rw [normal_of_values (.inr h), h]; rfl

theorem normalizes_of_wellFormed (inverts : ∀ a ∈ arch, a.Inverts) (hwf : raw.WellFormed) :
    Normalizes raw arch := by
  -- every state up to the last is the tag of a kind, and a kind has its own demand only
  obtain ⟨k, hk⟩ := Kind.exists_tag_eq hwf.state
  have hk := hk.symm
  cases k with
  | undetermined =>
    refine ⟨.undetermined, decode_of_state .undetermined hk arch, ?_, rfl⟩
    rw [normal_of_blank (.inl hk), hk]; rfl
  | entryValue => exact normalizes_entry inverts hk (hwf.register hk)
  | constant =>
    refine ⟨.constant raw.value, decode_of_state .constant hk arch, ?_, rfl⟩
    rw [normal_of_value (by simp [hk, Kind.tag]), hk]; rfl
  | constantPointer =>
    refine ⟨.constantPointer raw.value, decode_of_state .constantPointer hk arch, ?_, rfl⟩
    rw [normal_of_value (by simp [hk, Kind.tag]), hk]; rfl
  | stackOffset =>
    refine ⟨.stackOffset raw.value, decode_of_state .stackOffset hk arch, ?_, rfl⟩
    rw [normal_of_value (by simp [hk, Kind.tag]), hk]; rfl
  | returnAddress =>
    refine ⟨.returnAddress, decode_of_state .returnAddress hk arch, ?_, rfl⟩
    rw [normal_of_blank (.inr hk), hk]; rfl
  | importedAddress =>
    refine ⟨.imported raw.value, decode_of_state .importedAddress hk arch, ?_, rfl⟩
    rw [normal_of_value (by simp [hk, Kind.tag]), hk]; rfl
  | signedRange =>
    obtain ⟨hcount, hstep⟩ := hwf.ranges (.inl hk)
    exact normalizes_signedRanges hk hcount hstep
  | unsignedRange =>
    obtain ⟨hcount, hstep⟩ := hwf.ranges (.inr hk)
    exact normalizes_unsignedRanges hk hcount hstep
  | lookupTable => exact normalizes_table hk (hwf.table hk)
  | inSet => exact normalizes_inSet hk (hwf.values (.inl hk))
  | notInSet => exact normalizes_notInSet hk (hwf.values (.inr hk))

/-! ## The normal form -/

/-- Exactly the well-formed wire values are read, and each other one is refused with the error of
its defect. What was read is written as the normal form of the wire value, which reads the same. -/
theorem decode_normal (raw : WireValueSet) (arch : Option Architecture)
    (inverts : ∀ a ∈ arch, a.Inverts) :
    ((∃ s, decode raw arch = .ok s) ↔ raw.WellFormed) ∧
    (∀ e, decode raw arch = .error e ↔ raw.Refused e) ∧
    ∀ s, decode raw arch = .ok s →
      s.encode arch = .ok raw.normal ∧ decode raw.normal arch = .ok s := by
  refine ⟨⟨?_, ?_⟩, fun e => ⟨?_, decode_of_refused⟩, ?_⟩
  · rintro ⟨s, hs⟩
    rcases raw.wellFormed_or_refused with hwf | ⟨e, he⟩
    · exact hwf
    · rw [decode_of_refused he] at hs; cases hs
  · intro hwf
    obtain ⟨s, hs, -⟩ := normalizes_of_wellFormed inverts hwf
    exact ⟨s, hs⟩
  · intro herror
    rcases raw.wellFormed_or_refused with hwf | ⟨e', he'⟩
    · obtain ⟨s, hs, -⟩ := normalizes_of_wellFormed inverts hwf
      rw [hs] at herror; cases herror
    · rw [decode_of_refused he'] at herror
      cases herror
      exact he'
  · intro s hs
    rcases raw.wellFormed_or_refused with hwf | ⟨e, he⟩
    · obtain ⟨s', hs', hwrite, hnamed⟩ := normalizes_of_wellFormed inverts hwf
      rw [hs] at hs'
      cases hs'
      -- the register is named already, so reading once more gives the same value set
      refine ⟨hwrite, ?_⟩
      rw [decode_of_encode hwrite, hnamed]
    · rw [decode_of_refused he] at hs; cases hs

/-- Fields of other states are dropped, whatever they hold, and a member that stands twice and out
of order is put in its place once. -/
theorem decode_normal_unsorted :
    (∀ a ∈ some Machine.riscv.architecture, a.Inverts) ∧
    ∃ s, decode ⟨10, 7, [⟨1, 2, 0⟩], [], [3, -1, 3], 3⟩ (some Machine.riscv.architecture) = .ok s ∧
      s.encode (some Machine.riscv.architecture) = .ok ⟨10, 0, [], [], [-1, 3], 2⟩ ∧
      decode ⟨10, 0, [], [], [-1, 3], 2⟩ (some Machine.riscv.architecture) = .ok s := by
  have inverts := Machine.inverts_of_mem .riscv
  have hnormal : normal ⟨10, 7, [⟨1, 2, 0⟩], [], [3, -1, 3], 3⟩ = ⟨10, 0, [], [], [-1, 3], 2⟩ := by
    rw [normal_of_values (.inl rfl)]; rfl
  rw [← hnormal]
  exact ⟨inverts, _, rfl, (decode_normal _ _ inverts).2.2 _ rfl⟩

end ValueSet

end ValueLattice
