/-
Which lines fail, and what a line leaves behind. A line that is no command or that fails leaves the
session as it was. A value command fails for a zero step, and for a register name that cannot be
turned into a number; it cannot fail otherwise, since a command that is read specifies at least one
range, and since whatever was written can be read back. A line changes the current value only if it
is a value command, and the machine only if it names one.
-/
import ValueLattice.Proofs.Numeral.Reading
import ValueLattice.Proofs.Shell.Run

namespace ValueLattice

/-! ## What a value command specifies -/

namespace ValueSpec

/-- Whether a specification of ranges has at least one of them. -/
def Ranged : ValueSpec → Prop
  | signedRanges rows => rows ≠ []
  | unsignedRanges rows => rows ≠ []
  | _ => True

/-- Whether one of the specified ranges has step zero. -/
def ZeroStepped : ValueSpec → Prop
  | signedRanges rows => ∃ row ∈ rows, row.2.2 = 0
  | unsignedRanges rows => ∃ row ∈ rows, row.2.2 = 0
  | _ => False

end ValueSpec

namespace Command

variable {spec : ValueSpec} {args : List (List Char)}

theorem single_eq_some_iff {α : Type} {f : List Char → Option α} {x : α} :
    single f args = some x ↔ ∃ word, args = [word] ∧ f word = some x := by
  cases args with
  | nil => simp [single]
  | cons word words => cases words <;> simp [single]

theorem several_ne_nil {α : Type} {f : List Char → Option α} {xs : List α}
    (h : several f args = some xs) : xs ≠ [] := by
  cases args with
  | nil => cases h
  | cons word words =>
    obtain ⟨x, -, rest, -, rfl⟩ := mapM_cons_eq_some_iff.1 h
    exact List.cons_ne_nil x rest

theorem ranged_of_spec? {word : String} (h : spec? word args = some spec) : spec.Ranged := by
  cases spec with
  | signedRanges rows =>
    unfold spec? at h
    split at h <;> simp [single_eq_some_iff] at h
    exact several_ne_nil h
  | unsignedRanges rows =>
    unfold spec? at h
    split at h <;> simp [single_eq_some_iff] at h
    exact several_ne_nil h
  | _ => trivial

/-- A value command that is read specifies at least one range where it specifies ranges. -/
theorem ranged_of_parse? {line : String} (h : parse? line = some (.value spec)) :
    spec.Ranged := by
  unfold parse? at h
  split at h
  · cases h
  · -- no other command word gives a value command
    unfold ofWords? at h
    split at h <;> simp [single_eq_some_iff] at h
    exact ranged_of_spec? h

end Command

/-! ## Building and writing -/

namespace Range

variable {α : Type}

/-- Ranges that are passed on to a function which takes any ranges at all are refused for a zero
step only. -/
theorem buildAll_bind_eq_error_iff {rows : List (α × α × UInt64)} {e : ValueError}
    {f : List (Range α) → Except ValueError ValueSet} (hrows : rows ≠ [])
    (hf : ∀ rs, rs ≠ [] → ∃ v, f rs = .ok v) :
    (buildAll rows >>= f) = .error e ↔ (∃ row ∈ rows, row.2.2 = 0) ∧ e = .invalidStep := by
  rw [← buildAll_eq_error_iff]
  cases hbuild : buildAll rows with
  | error e' => simp [bind, Except.bind]
  | ok rs =>
    have hne : rs ≠ [] := by
      rintro rfl
      exact hrows (buildAll_eq_ok_iff.1 hbuild).symm
    obtain ⟨v, hv⟩ := hf rs hne
    simp [bind, Except.bind, hv]

end Range

namespace ValueSpec

variable {spec : ValueSpec} {e : ValueError}

theorem build_eq_error_iff (h : spec.Ranged) :
    spec.build = .error e ↔ spec.ZeroStepped ∧ e = .invalidStep := by
  cases spec with
  | signedRanges rows =>
    refine Range.buildAll_bind_eq_error_iff h fun rs hne => ⟨.signedRanges 0 rs, ?_⟩
    simp [ValueSet.ofSignedRanges, hne]
  | unsignedRanges rows =>
    refine Range.buildAll_bind_eq_error_iff h fun rs hne => ⟨.unsignedRanges 0 rs, ?_⟩
    simp [ValueSet.ofUnsignedRanges, hne]
  | _ => simp [build, ZeroStepped]

/-- Only an entry register is built as an entry value. -/
theorem build_eq_ok_entry_iff {r : Register} :
    spec.build = .ok (.entry r) ↔ spec = .entry r := by
  cases spec with
  | signedRanges rows =>
    refine iff_of_false (fun h => ?_) (by rintro ⟨⟩)
    rw [build] at h
    cases hbuild : Range.buildAll rows with
    | error e => rw [hbuild] at h; cases h
    | ok rs => cases rs <;> rw [hbuild] at h <;> cases h
  | unsignedRanges rows =>
    refine iff_of_false (fun h => ?_) (by rintro ⟨⟩)
    rw [build] at h
    cases hbuild : Range.buildAll rows with
    | error e => rw [hbuild] at h; cases h
    | ok rs => cases rs <;> rw [hbuild] at h <;> cases h
  | _ => simp [build]

end ValueSpec

namespace ShellSession

variable {s : ShellSession} {spec : ValueSpec} {e : ValueError}

theorem toIndex_arch_eq_error_iff {r : Register} : r.toIndex s.arch = .error e ↔
    ∃ n, r = .name n ∧ (s.machine = none ∧ e = .missingArchitecture n ∨
      ∃ m, s.machine = some m ∧ m.registerIndex n = none ∧ e = .unresolvedRegister n) := by
  rw [Register.toIndex_eq_error_iff]
  simp only [arch, Option.map_eq_none_iff, Option.map_eq_some_iff]
  constructor
  · rintro ⟨n, hr, hnone | ⟨_, ⟨m, hm, rfl⟩, hunknown⟩⟩
    · exact ⟨n, hr, .inl hnone⟩
    · exact ⟨n, hr, .inr ⟨m, hm, hunknown⟩⟩
  · rintro ⟨n, hr, hnone | ⟨m, hm, hunknown⟩⟩
    · exact ⟨n, hr, .inl hnone⟩
    · exact ⟨n, hr, .inr ⟨_, ⟨m, hm, rfl⟩, hunknown⟩⟩

/-- What is built and written is always read back. -/
theorem built_eq_error_iff_stage : s.built spec = .error e ↔
    spec.build = .error e ∨ ∃ value, spec.build = .ok value ∧ value.encode s.arch = .error e := by
  rw [built_eq]
  cases hvalue : spec.build with
  | error e' => simp [Except.bind]
  | ok value => cases hraw : value.encode s.arch <;> simp [Except.bind, Except.map, hraw]

/-- Why a session refuses a value that is specified. -/
inductive Refuses (s : ShellSession) : ValueSpec → ValueError → Prop
  | zeroStep {spec : ValueSpec} : spec.ZeroStepped → Refuses s spec .invalidStep
  | noMachine {n : String} : s.machine = none →
      Refuses s (.entry (.name n)) (.missingArchitecture n)
  | unknownName {n : String} {m : Machine} : s.machine = some m → m.registerIndex n = none →
      Refuses s (.entry (.name n)) (.unresolvedRegister n)

theorem built_eq_error_iff (h : spec.Ranged) : s.built spec = .error e ↔ s.Refuses spec e := by
  rw [built_eq_error_iff_stage, ValueSpec.build_eq_error_iff h]
  constructor
  · rintro (⟨hzero, rfl⟩ | ⟨value, hbuild, hraw⟩)
    · exact .zeroStep hzero
    · obtain ⟨r, rfl, hindex⟩ := ValueSet.encode_eq_error_iff.1 hraw
      obtain rfl := ValueSpec.build_eq_ok_entry_iff.1 hbuild
      obtain ⟨n, rfl, ⟨hnone, rfl⟩ | ⟨m, hm, hunknown, rfl⟩⟩ := toIndex_arch_eq_error_iff.1 hindex
      · exact .noMachine hnone
      · exact .unknownName hm hunknown
  · rintro (hzero | hnone | ⟨hm, hunknown⟩)
    · exact .inl ⟨hzero, rfl⟩
    · refine .inr ⟨_, rfl, ValueSet.encode_eq_error_iff.2 ⟨_, rfl, ?_⟩⟩
      exact toIndex_arch_eq_error_iff.2 ⟨_, rfl, .inl ⟨hnone, rfl⟩⟩
    · refine .inr ⟨_, rfl, ValueSet.encode_eq_error_iff.2 ⟨_, rfl, ?_⟩⟩
      exact toIndex_arch_eq_error_iff.2 ⟨_, rfl, .inr ⟨_, hm, hunknown, rfl⟩⟩

/-! ## Failures -/

/-- Why a command fails in a session whose current value was set by its lines. -/
inductive Fails (s : ShellSession) : Command → ShellError → Prop
  | value {spec : ValueSpec} {e : ValueError} : s.Refuses spec e → Fails s (.value spec) (.value e)
  | raw {n : String} {m : Machine} : s.current = .entry (.name n) → s.machine = some m →
      m.registerIndex n = none → Fails s .raw (.value (.unresolvedRegister n))
  | arch {name : String} : Machine.ofName? name = none →
      Fails s (.arch (some name)) (.unknownArchitecture name)

variable {g : Setting} {err : ShellError}

theorem carryOut_value_eq_failed_iff (h : spec.Ranged) :
    (s.carryOut (.value spec)).1 = .failed err ↔ s.Fails (.value spec) err := by
  constructor
  · intro hfailed
    rw [carryOut] at hfailed
    cases hbuilt : s.built spec with
    | error e =>
      rw [hbuilt] at hfailed
      cases hfailed
      exact .value ((built_eq_error_iff h).1 hbuilt)
    | ok v => rw [hbuilt] at hfailed; cases hfailed
  · rintro ⟨hrefused⟩
    rw [carryOut, (built_eq_error_iff h).2 hrefused]

/-- The current value was written when it was set, so a machine is there to be asked. -/
theorem carryOut_raw_eq_failed_iff (h : Settled s g) :
    (s.carryOut .raw).1 = .failed err ↔ s.Fails .raw err := by
  constructor
  · intro hfailed
    rcases h.carryOut_raw_cases with ⟨⟨_, _, hdone⟩, -⟩ | ⟨-, n, m, hcurrent, hm, hunknown, hraw⟩
    · rw [hdone] at hfailed; cases hfailed
    · rw [hraw] at hfailed
      cases hfailed
      exact .raw hcurrent hm hunknown
  · rintro (_ | ⟨hcurrent, hm, hunknown⟩)
    have hraw : s.current.encode s.arch = .error (.unresolvedRegister _) :=
      ValueSet.encode_eq_error_iff.2 ⟨_, hcurrent,
        toIndex_arch_eq_error_iff.2 ⟨_, rfl, .inr ⟨_, hm, hunknown, rfl⟩⟩⟩
    rw [carryOut, hraw]

theorem carryOut_arch_eq_failed_iff {name : String} :
    (s.carryOut (.arch (some name))).1 = .failed err ↔ s.Fails (.arch (some name)) err := by
  rw [carryOut]
  constructor
  · intro hfailed
    cases hm : Machine.ofName? name with
    | none => rw [hm] at hfailed; cases hfailed; exact .arch hm
    | some m => rw [hm] at hfailed; cases hfailed
  · rintro (_ | _ | hm)
    rw [hm]

/-- A command fails exactly for the reasons listed. -/
theorem carryOut_eq_failed_iff {c : Command} (h : Settled s g)
    (hranged : ∀ spec, c = .value spec → spec.Ranged) :
    (s.carryOut c).1 = .failed err ↔ s.Fails c err := by
  cases c with
  | value spec => exact carryOut_value_eq_failed_iff (hranged spec rfl)
  | raw => exact carryOut_raw_eq_failed_iff h
  | arch name =>
    cases name with
    | some name => exact carryOut_arch_eq_failed_iff
    | none =>
      refine iff_of_false ?_ (by rintro ⟨⟩)
      rw [carryOut]
      split <;> rintro ⟨⟩
  | parse kind =>
    refine iff_of_false ?_ (by rintro ⟨⟩)
    rw [carryOut]
    split
    split <;> rintro ⟨⟩
  | contains x => exact iff_of_false (by rintro ⟨⟩) (by rintro ⟨⟩)
  | parsers => exact iff_of_false (by rintro ⟨⟩) (by rintro ⟨⟩)
  | help => exact iff_of_false (by rintro ⟨⟩) (by rintro ⟨⟩)
  | quit => exact iff_of_false (by rintro ⟨⟩) (by rintro ⟨⟩)

variable {line : String}

theorem carryOut_ne_unknown (s : ShellSession) (c : Command) : (s.carryOut c).1 ≠ .unknown := by
  fun_cases carryOut s c <;> rintro ⟨⟩

theorem handle_eq_unknown_iff : (s.handle line).1 = .unknown ↔ Command.parse? line = none := by
  cases hparse : Command.parse? line with
  | none => simp [handle, hparse]
  | some c => simp [handle_of_parse hparse, carryOut_ne_unknown]

theorem handle_eq_failed_iff (h : Settled s g) : (s.handle line).1 = .failed err ↔
    ∃ c, Command.parse? line = some c ∧ s.Fails c err := by
  cases hparse : Command.parse? line with
  | none => simp [handle, hparse]
  | some c =>
    rw [handle_of_parse hparse]
    have hranged : ∀ spec, c = .value spec → spec.Ranged := by
      rintro spec rfl
      exact Command.ranged_of_parse? hparse
    simp [carryOut_eq_failed_iff h hranged]

/-- A value command that does not fail is carried out. -/
theorem succeeds_or_failed_of_value (hparse : Command.parse? line = some (.value spec)) :
    Succeeds (s.handle line).1 ∨ ∃ err, (s.handle line).1 = .failed err := by
  rw [handle_of_parse hparse, carryOut]
  cases s.built spec with
  | error e => exact .inr ⟨_, rfl⟩
  | ok v => exact .inl ⟨_, _, rfl⟩

/-! ## What a line leaves behind -/

/-- A session that is another one after a line carried the line out. -/
theorem handle_snd_of_not_done (h : ¬ Succeeds (s.handle line).1) : (s.handle line).2 = s := by
  rcases s.handle_cases line with ⟨_, _, _, _, _, _, hset⟩ | ⟨_, _, _, _, hset⟩ | ⟨hkept, -⟩
  · exact absurd ⟨_, _, by rw [hset]⟩ h
  · exact absurd ⟨_, _, by rw [hset]⟩ h
  · exact hkept

theorem current_handle (s : ShellSession) (line : String) :
    (s.handle line).2.current = s.current ∨
      Succeeds (s.handle line).1 ∧ ∃ spec, Command.parse? line = some (.value spec) := by
  rcases s.handle_cases line with ⟨spec, _, _, hparse, _, _, hset⟩ | ⟨_, _, _, _, hset⟩ | ⟨hkept, -⟩
  · exact .inr ⟨⟨_, _, by rw [hset]⟩, spec, hparse⟩
  · exact .inl (by rw [hset])
  · exact .inl (by rw [hkept])

theorem machine_handle (s : ShellSession) (line : String) :
    (s.handle line).2.machine = s.machine ∨
      Succeeds (s.handle line).1 ∧ ∃ name m, Command.parse? line = some (.arch (some name)) ∧
        Machine.ofName? name = some m ∧ (s.handle line).2.machine = some m := by
  rcases s.handle_cases line with
    ⟨_, _, _, _, _, _, hset⟩ | ⟨name, m, hparse, hm, hset⟩ | ⟨hkept, -⟩
  · exact .inl (by rw [hset])
  · exact .inr ⟨⟨_, _, by rw [hset]⟩, name, m, hparse, hm, by rw [hset]⟩
  · exact .inl (by rw [hkept])

/-- In a session that started without a value, a line that is no command or that fails changes
nothing, and a line fails exactly for the reasons listed. A value command fails for a zero step or
a register name that the machine does not know, and otherwise is carried out; no line fails with an
error of another kind. Only value commands change the current value, and only a change of the
machine changes that. -/
theorem failures_after (bench : Bench) (machine : Option Machine) (lines : List String)
    (line : String) :
    let s := (fresh bench machine).after lines
    let result := (s.handle line).1
    let next := (s.handle line).2
    (result = .unknown ∨ (∃ err, result = .failed err) → next = s) ∧
    (result = .unknown ↔ Command.parse? line = none) ∧
    (∀ err, result = .failed err ↔ ∃ c, Command.parse? line = some c ∧ s.Fails c err) ∧
    (∀ spec, Command.parse? line = some (.value spec) →
      (∀ err, result = .failed err ↔ ∃ e, err = .value e ∧ s.Refuses spec e) ∧
      (Succeeds result ↔ ¬ ∃ e, s.Refuses spec e)) ∧
    (∀ e, result = .failed (.value e) →
      e = .invalidStep ∨ ∃ n, e = .missingArchitecture n ∨ e = .unresolvedRegister n) ∧
    (next.current = s.current ∨
      Succeeds result ∧ ∃ spec, Command.parse? line = some (.value spec)) ∧
    (next.machine = s.machine ∨
      Succeeds result ∧ ∃ name m, Command.parse? line = some (.arch (some name)) ∧
        Machine.ofName? name = some m ∧ next.machine = some m) := by
  intro s result next
  have h : Settled s ((Setting.fresh machine).after (fresh bench machine) lines) :=
    settled_after (settled_fresh bench machine) lines
  have hfailed (err : ShellError) : result = .failed err ↔ _ := handle_eq_failed_iff h
  refine ⟨?_, handle_eq_unknown_iff, hfailed, fun spec hparse => ?_, fun e he => ?_,
    s.current_handle line, s.machine_handle line⟩
  · intro hnot
    refine handle_snd_of_not_done ?_
    rintro ⟨_, _, hdone⟩
    rcases hnot with hunknown | ⟨err, herr⟩
    · cases hdone.symm.trans hunknown
    · cases hdone.symm.trans herr
  · have hvalue (err : ShellError) :
        result = .failed err ↔ ∃ e, err = .value e ∧ s.Refuses spec e := by
      rw [hfailed, hparse]
      constructor
      · rintro ⟨_, ⟨⟩, hfails⟩
        cases hfails with
        | value hrefused => exact ⟨_, rfl, hrefused⟩
      · rintro ⟨e, rfl, hrefused⟩
        exact ⟨_, rfl, .value hrefused⟩
    refine ⟨hvalue, ?_, fun hnot => ?_⟩
    · rintro ⟨_, _, hdone⟩ ⟨e, hrefused⟩
      cases hdone.symm.trans ((hvalue _).2 ⟨e, rfl, hrefused⟩)
    · rcases succeeds_or_failed_of_value (s := s) hparse with hdone | ⟨err, herr⟩
      · exact hdone
      · obtain ⟨e, -, hrefused⟩ := (hvalue err).1 herr
        exact absurd ⟨e, hrefused⟩ hnot
  · obtain ⟨c, -, hfails⟩ := (hfailed _).1 he
    cases hfails with
    | value hrefused =>
      cases hrefused with
      | zeroStep _ => exact .inl rfl
      | noMachine _ => exact .inr ⟨_, .inl rfl⟩
      | unknownName _ _ => exact .inr ⟨_, .inr rfl⟩
    | raw _ _ _ => exact .inr ⟨_, .inr rfl⟩

/-- A register of another machine is refused, and the constant before it stays. -/
theorem failures_after_unknown :
    let s := (fresh {} (some .riscv)).after ["const 5"]
    Command.parse? "entry rax" = some (.value (.entry (.name "rax"))) ∧
    s.current = .constant 5 ∧
    (s.handle "entry rax").1 = .failed (.value (.unresolvedRegister "rax")) ∧
    (s.handle "entry rax").2 = s := by
  intro s
  have hparse : Command.parse? "entry rax" = some (.value (.entry (.name "rax"))) := by decide
  have hall := failures_after {} (some .riscv) ["const 5"] "entry rax"
  have hfailed : (s.handle "entry rax").1 = .failed (.value (.unresolvedRegister "rax")) :=
    ((hall.2.2.2.1 _ hparse).1 _).2
      ⟨_, rfl, .unknownName (m := .riscv) rfl (by decide +kernel)⟩
  exact ⟨hparse, rfl, hfailed, hall.1 (.inr ⟨_, hfailed⟩)⟩

end ShellSession

end ValueLattice
