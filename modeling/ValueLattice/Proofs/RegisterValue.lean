/-
Register values beside value sets. The same state and value on the wire are read twice, as a
register value and as a value set without lists. Both readings are refused with the same error, or
they state the same fact, except that a register value cannot state the kinds with a list. Facts
that are the same have the same parts, texts and wire values, and are told apart alike.
-/
import ValueLattice.Proofs.ValueSet.NormalForm
import ValueLattice.RegisterValue

namespace ValueLattice

/-- The wire value of a value set with this state and value and with empty lists. -/
def WireRegisterValue.withoutLists (raw : WireRegisterValue) : WireValueSet :=
  ⟨raw.state, raw.value, [], [], [], 0⟩

/-! ## One fact, stated twice -/

namespace Fact

/-- The value set that states a fact. -/
def toValueSet : Fact → ValueSet
  | undetermined => .undetermined
  | entry r => .entry r
  | constant v => .constant v
  | constantPointer v => .constantPointer v
  | stackOffset v => .stackOffset v
  | returnAddress => .returnAddress
  | imported v => .imported v

theorem toValueSet_beq_iff (f g : Fact) : (f.toValueSet == g.toValueSet) = true ↔ f = g := by
  have hbeq : (f.toValueSet == g.toValueSet) = ValueSet.sameFact f.toValueSet g.toValueSet := rfl
  rw [hbeq]
  cases f <;> cases g <;> simp [toValueSet, ValueSet.sameFact]

end Fact

namespace RegisterValue

variable {raw : WireRegisterValue} {arch : Option Architecture} {confidence : UInt8}

/-- What is the same for a register value and a value set that state the same fact. -/
structure AgreesWith (v : RegisterValue) (s : ValueSet) : Prop where
  kind : v.kind = s.kind
  value : v.value? = s.value?
  offset : v.offset? = s.offset?
  reg : v.reg? = s.reg?
  text : v.text = s.text
  isValue : ∀ n, v.isValue n = s.isValue n
  encode : ∀ arch, s.encode arch = (v.encode arch).map WireRegisterValue.withoutLists

theorem encode_toValueSet (v : RegisterValue) (arch : Option Architecture) :
    v.fact.toValueSet.encode arch = (v.encode arch).map WireRegisterValue.withoutLists := by
  obtain ⟨fact, confidence⟩ := v
  cases fact with
  | entry r =>
    -- both are refused exactly if the register has no number
    rw [Fact.toValueSet, ValueSet.encode_entry]
    unfold RegisterValue.encode
    dsimp only
    cases r.toIndex arch <;> rfl
  | _ => rfl

theorem agreesWith_toValueSet (v : RegisterValue) : v.AgreesWith v.fact.toValueSet := by
  have hencode := v.encode_toValueSet
  obtain ⟨fact, confidence⟩ := v
  cases fact <;> exact ⟨rfl, rfl, rfl, rfl, rfl, fun _ => rfl, hencode⟩

theorem beq_iff_toValueSet (v w : RegisterValue) :
    (v == w) = true ↔ (v.fact.toValueSet == w.fact.toValueSet) = true := by
  have hbeq : (v == w) = (v.fact == w.fact) := rfl
  rw [hbeq, beq_iff_eq, Fact.toValueSet_beq_iff]

/-! ## Reading twice -/

theorem decode_of_unknown (h : 11 < raw.state) :
    decode raw arch confidence = .error (.unknownState raw.state) ∧
      ValueSet.decode raw.withoutLists arch = .error (.unknownState raw.state) := by
  refine ⟨?_, ValueSet.decode_of_refused (.state h)⟩
  unfold decode
  rw [Kind.ofTag?_eq_none h]

theorem decode_of_register (h : raw.state = 1)
    (hout : ¬ (0 ≤ raw.value.toInt ∧ raw.value.toInt < 0x100000000)) :
    decode raw arch confidence = .error (.invalidRegisterIndex raw.value) ∧
      ValueSet.decode raw.withoutLists arch = .error (.invalidRegisterIndex raw.value) := by
  refine ⟨?_, ValueSet.decode_of_refused (.register h hout)⟩
  have hread : Register.ofWire raw.value arch = .error _ :=
    Register.ofWire_eq_error_iff.2 ⟨hout, rfl⟩
  have hstate : raw.state = Kind.entryValue.tag := h
  unfold decode
  rw [hstate, Kind.ofTag?_tag, hread]
  rfl

theorem decode_of_list {kind : Kind} (h : raw.state = kind.tag) (hlist : 7 ≤ raw.state) :
    decode raw arch confidence = .error (.notARegisterValue kind) ∧
      ∃ s, ValueSet.decode raw.withoutLists arch = .ok s := by
  rw [ValueSet.decode_of_state kind h]
  unfold decode
  rw [h] at hlist ⊢
  rw [Kind.ofTag?_tag]
  cases kind with
  | signedRange => exact ⟨rfl, _, rfl⟩
  | unsignedRange => exact ⟨rfl, _, rfl⟩
  | lookupTable => exact ⟨rfl, _, rfl⟩
  | inSet => exact ⟨rfl, _, rfl⟩
  | notInSet => exact ⟨rfl, _, rfl⟩
  | _ => exact absurd hlist (by decide)

/-- Where there is no list and the register number fits, both readings state one fact. -/
theorem decode_of_scalar (h : raw.state ≤ 6)
    (hin : raw.state = 1 → 0 ≤ raw.value.toInt ∧ raw.value.toInt < 0x100000000) :
    ∃ fact : Fact, decode raw arch confidence = .ok ⟨fact, confidence⟩ ∧
      ValueSet.decode raw.withoutLists arch = .ok fact.toValueSet := by
  obtain ⟨kind, hkind⟩ := Kind.exists_tag_eq (UInt32.le_trans h (by decide : (6 : UInt32) ≤ 11))
  rw [ValueSet.decode_of_state kind hkind.symm]
  unfold decode
  rw [← hkind] at h hin ⊢
  rw [Kind.ofTag?_tag]
  cases kind with
  | undetermined => exact ⟨.undetermined, rfl, rfl⟩
  | entryValue =>
    have hread : Register.ofWire raw.value arch = .ok (.resolve _ arch) :=
      Register.ofWire_eq_ok_iff.2 ⟨_, Register.registerWord_ofNat (hin rfl), rfl⟩
    have hread' : Register.ofWire raw.withoutLists.value arch = _ := hread
    dsimp only [ValueSet.decodeAs]
    rw [hread', hread]
    exact ⟨.entry _, rfl, rfl⟩
  | constant => exact ⟨.constant raw.value, rfl, rfl⟩
  | constantPointer => exact ⟨.constantPointer raw.value, rfl, rfl⟩
  | stackOffset => exact ⟨.stackOffset raw.value, rfl, rfl⟩
  | returnAddress => exact ⟨.returnAddress, rfl, rfl⟩
  | importedAddress => exact ⟨.imported raw.value, rfl, rfl⟩
  | _ => exact absurd h (by decide)

/-- A register value that is read decides the value set that is read. -/
theorem decode_withoutLists {v : RegisterValue} (h : decode raw arch confidence = .ok v) :
    ValueSet.decode raw.withoutLists arch = .ok v.fact.toValueSet := by
  by_cases hlist : 7 ≤ raw.state
  · by_cases hknown : raw.state ≤ 11
    · obtain ⟨kind, hkind⟩ := Kind.exists_tag_eq hknown
      rw [(decode_of_list hkind.symm hlist).1] at h
      cases h
    · rw [(decode_of_unknown (UInt32.not_le.1 hknown)).1] at h
      cases h
  · by_cases hout : raw.state = 1 ∧ ¬ (0 ≤ raw.value.toInt ∧ raw.value.toInt < 0x100000000)
    · rw [(decode_of_register hout.1 hout.2).1] at h
      cases h
    · have hscalar : raw.state ≤ 6 := by
        rw [UInt32.le_iff_toNat_le] at hlist ⊢
        exact Nat.le_of_lt_succ (Nat.not_le.1 hlist)
      rw [not_and, not_not] at hout
      obtain ⟨fact, hvalue, hset⟩ := decode_of_scalar hscalar hout
      rw [hvalue] at h
      cases h
      exact hset

/-- A state and a value are read alike as a register value and as a value set: both readings are
refused with the same error, or they state the same fact. Only the kinds with a list are refused
as register values and read as value sets. Two register values that are read are equal, whatever
their confidences, exactly if the two value sets are. -/
theorem decode_agrees (raw : WireRegisterValue) (arch : Option Architecture) (confidence : UInt8) :
    (11 < raw.state →
      decode raw arch confidence = .error (.unknownState raw.state) ∧
      ValueSet.decode raw.withoutLists arch = .error (.unknownState raw.state)) ∧
    (raw.state = 1 → ¬ (0 ≤ raw.value.toInt ∧ raw.value.toInt < 0x100000000) →
      decode raw arch confidence = .error (.invalidRegisterIndex raw.value) ∧
      ValueSet.decode raw.withoutLists arch = .error (.invalidRegisterIndex raw.value)) ∧
    (7 ≤ raw.state → raw.state ≤ 11 → ∃ kind : Kind, kind.tag = raw.state ∧
      decode raw arch confidence = .error (.notARegisterValue kind) ∧
      ∃ s, ValueSet.decode raw.withoutLists arch = .ok s) ∧
    (raw.state ≤ 6 → (raw.state = 1 → 0 ≤ raw.value.toInt ∧ raw.value.toInt < 0x100000000) →
      ∃ v s, decode raw arch confidence = .ok v ∧ v.confidence = confidence ∧
        ValueSet.decode raw.withoutLists arch = .ok s ∧ v.AgreesWith s) ∧
    ∀ raw' arch' confidence' v v' s s',
      decode raw arch confidence = .ok v → ValueSet.decode raw.withoutLists arch = .ok s →
      decode raw' arch' confidence' = .ok v' →
      ValueSet.decode raw'.withoutLists arch' = .ok s' →
      ((v == v') = true ↔ (s == s') = true) := by
  refine ⟨decode_of_unknown, decode_of_register, fun hlist hknown => ?_, fun h hin => ?_, ?_⟩
  · obtain ⟨kind, hkind⟩ := Kind.exists_tag_eq hknown
    exact ⟨kind, hkind, decode_of_list hkind.symm hlist⟩
  · obtain ⟨fact, hvalue, hset⟩ : ∃ fact, decode raw arch confidence = .ok ⟨fact, confidence⟩ ∧
        ValueSet.decode raw.withoutLists arch = .ok fact.toValueSet := decode_of_scalar h hin
    exact ⟨_, _, hvalue, rfl, hset, agreesWith_toValueSet ⟨fact, confidence⟩⟩
  · intro raw' arch' confidence' v v' s s' hv hs hv' hs'
    rw [decode_withoutLists hv] at hs
    rw [decode_withoutLists hv'] at hs'
    cases hs
    cases hs'
    exact beq_iff_toValueSet v v'

/-- An entry register is read under its name in both ways, and equals the same register read with
another confidence. -/
theorem decode_agrees_entry :
    let arch := some Machine.x8664.architecture
    (∃ v s, decode ⟨1, 5⟩ arch 10 = .ok v ∧ v.confidence = 10 ∧
      ValueSet.decode ⟨1, 5, [], [], [], 0⟩ arch = .ok s ∧ v.AgreesWith s) ∧
    decode ⟨1, 5⟩ arch 10 = .ok ⟨.entry (.name "rdi"), 10⟩ ∧
    decode ⟨1, 5⟩ arch 200 = .ok ⟨.entry (.name "rdi"), 200⟩ ∧
    ((⟨.entry (.name "rdi"), 10⟩ : RegisterValue) == ⟨.entry (.name "rdi"), 200⟩) = true := by
  have hlow : decode ⟨1, 5⟩ (some Machine.x8664.architecture) 10 =
      .ok ⟨.entry (.name "rdi"), 10⟩ := by rfl
  have hhigh : decode ⟨1, 5⟩ (some Machine.x8664.architecture) 200 =
      .ok ⟨.entry (.name "rdi"), 200⟩ := by rfl
  have hset : ValueSet.decode ⟨1, 5, [], [], [], 0⟩ (some Machine.x8664.architecture) =
      .ok (.entry (.name "rdi")) := by rfl
  obtain ⟨-, -, -, hscalar, hequal⟩ := decode_agrees ⟨1, 5⟩ (some Machine.x8664.architecture) 10
  refine ⟨hscalar (by decide) (by decide), hlow, hhigh, ?_⟩
  exact (hequal _ _ _ _ _ _ _ hlow hset hhigh hset).2 (by decide)

end RegisterValue

end ValueLattice
