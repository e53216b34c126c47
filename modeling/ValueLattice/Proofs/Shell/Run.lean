/-
Sessions that start without a value and carry out lines. Such a session remembers too little to say
when its value was set, so a `Setting` is carried along with it: the machine at that time and the
wire value that was computed then. A value can always be written on the machine it was set on, which
gives that wire value again, and the lines that show it tell it; writing fails only for a register
name that a machine chosen later does not know.
-/
import ValueLattice.Proofs.Shell.Shown
import ValueLattice.Proofs.Shell.Step

namespace ValueLattice

/-! ## Ranges in a session -/

/-- Whether a range set has no offset and at least one range. -/
def ValueSet.Ranged : ValueSet → Prop
  | signedRanges offset ranges => offset = 0 ∧ ranges ≠ []
  | unsignedRanges offset ranges => offset = 0 ∧ ranges ≠ []
  | _ => True

namespace ValueSet

variable {v : ValueSet}

theorem ranged_named {arch : Option Architecture} (h : v.Ranged) : (v.named arch).Ranged := by
  cases v <;> exact h

theorem ranged_ofSignedRanges {ranges : List (Range Int64)} (h : ofSignedRanges ranges = .ok v) :
    v.Ranged := by
  unfold ofSignedRanges at h
  split at h
  · cases h
  · next hne => cases h; exact ⟨rfl, by simpa using hne⟩

theorem ranged_ofUnsignedRanges {ranges : List (Range UInt64)}
    (h : ofUnsignedRanges ranges = .ok v) : v.Ranged := by
  unfold ofUnsignedRanges at h
  split at h
  · cases h
  · next hne => cases h; exact ⟨rfl, by simpa using hne⟩

end ValueSet

theorem ValueSpec.ranged_of_build {spec : ValueSpec} {v : ValueSet} (h : spec.build = .ok v) :
    v.Ranged := by
  cases spec with
  | signedRanges rows =>
    rw [build] at h
    cases hrows : Range.buildAll rows with
    | error e => rw [hrows] at h; cases h
    | ok ranges => rw [hrows] at h; exact ValueSet.ranged_ofSignedRanges h
  | unsignedRanges rows =>
    rw [build] at h
    cases hrows : Range.buildAll rows with
    | error e => rw [hrows] at h; cases h
    | ok ranges => rw [hrows] at h; exact ValueSet.ranged_ofUnsignedRanges h
  | _ => cases h; trivial

namespace ShellSession

/-! ## Runs -/

/-- A session before its first line. -/
def fresh (bench : Bench) (machine : Option Machine) : ShellSession :=
  { machine, bench }

/-- The session after some lines. -/
def after (s : ShellSession) : List String → ShellSession
  | [] => s
  | line :: lines => (s.handle line).2.after lines

/-- How the current value was set: the machine then, and the wire value that was computed. -/
structure Setting where
  machine : Option Machine
  wire : WireValueSet

namespace Setting

/-- The setting of the value that a session starts with. -/
def fresh (machine : Option Machine) : Setting :=
  ⟨machine, .blank .undetermined⟩

/-- The setting after a line, which is another one if the line sets a value. -/
def next (g : Setting) (s : ShellSession) (line : String) : Setting :=
  match Command.parse? line with
  | some (.value spec) =>
    match spec.build with
    | .error _ => g
    | .ok value =>
      match value.encode s.arch with
      | .error _ => g
      | .ok wire => ⟨s.machine, wire⟩
  | _ => g

/-- The setting after some lines. -/
def after (g : Setting) (s : ShellSession) : List String → Setting
  | [] => g
  | line :: lines => (g.next s line).after (s.handle line).2 lines

variable {g : Setting} {s : ShellSession} {line : String}

theorem next_of_value {spec : ValueSpec} {value : ValueSet} {wire : WireValueSet}
    (hparse : Command.parse? line = some (.value spec)) (hbuild : spec.build = .ok value)
    (hwire : value.encode s.arch = .ok wire) : g.next s line = ⟨s.machine, wire⟩ := by
  unfold next
  rw [hparse]
  dsimp only
  rw [hbuild]
  dsimp only
  rw [hwire]

theorem next_of_refused (h : ∀ spec value wire, Command.parse? line = some (.value spec) →
    spec.build = .ok value → value.encode s.arch ≠ .ok wire) : g.next s line = g := by
  unfold next
  split
  · next spec hparse =>
    split
    · rfl
    · next value hbuild =>
      split
      · rfl
      · next wire hwire => exact absurd hwire (h spec value wire hparse hbuild)
  · rfl

end Setting

/-! ## The invariant -/

/-- What relates the current value and the machine of a session to the setting of the value. -/
structure Settled (s : ShellSession) (g : Setting) : Prop where
  written : s.current.encode (g.machine.map Machine.architecture) = .ok g.wire
  machine : s.machine = none → g.machine = none
  ranged : s.current.Ranged

variable {s : ShellSession} {g : Setting}

theorem inverts_arch (s : ShellSession) : ∀ a ∈ s.arch, a.Inverts := by
  unfold arch
  cases s.machine with
  | none => rintro a ⟨⟩
  | some m => exact Machine.inverts_of_mem m

theorem settled_fresh (bench : Bench) (machine : Option Machine) :
    Settled (fresh bench machine) (.fresh machine) :=
  ⟨rfl, id, trivial⟩

theorem settled_handle (h : Settled s g) (line : String) :
    Settled (s.handle line).2 (g.next s line) := by
  rcases s.handle_cases line with ⟨spec, value, wire, hparse, hbuild, hwire, hset⟩ |
    ⟨name, m, hparse, hm, hset⟩ | ⟨hkept, hrefused⟩
  · rw [hset, Setting.next_of_value hparse hbuild hwire]
    -- a register is kept under the name that leads back to the number on the wire
    exact ⟨ValueSet.encode_named s.inverts_arch hwire, id,
      ValueSet.ranged_named (ValueSpec.ranged_of_build hbuild)⟩
  · have hnext : g.next s line = g := by unfold Setting.next; rw [hparse]
    rw [hset, hnext]
    exact ⟨h.written, (fun hnone => nomatch hnone), h.ranged⟩
  · rw [hkept, Setting.next_of_refused hrefused]
    exact h

theorem settled_after (h : Settled s g) (lines : List String) :
    Settled (s.after lines) (g.after s lines) := by
  induction lines generalizing s g with
  | nil => exact h
  | cons line lines ih => exact ih (settled_handle h line)

/-! ## Showing the wire value -/

theorem Settled.machine_of_name (h : Settled s g) {n : String}
    (hcurrent : s.current = .entry (.name n)) : s.machine ≠ none := by
  intro hnone
  have hwritten := h.written
  rw [hcurrent, h.machine hnone] at hwritten
  cases hwritten

/-- On the machine of its setting a value is written as it was then. -/
theorem Settled.carryOut_raw (h : Settled s g) (hsame : s.machine = g.machine) :
    s.carryOut .raw = (.done (wireLines g.wire s.current.kind) [], s) := by
  have hwritten : s.current.encode s.arch = .ok g.wire := by
    unfold arch
    rw [hsame]
    exact h.written
  rw [carryOut, hwritten]

/-- Writing fails only for a name that another machine does not know. -/
theorem Settled.carryOut_raw_cases (h : Settled s g) :
    (Succeeds (s.carryOut .raw).1 ∧ (s.carryOut .raw).2 = s) ∨
    (s.machine ≠ g.machine ∧ ∃ n m, s.current = .entry (.name n) ∧ s.machine = some m ∧
      m.registerIndex n = none ∧
      s.carryOut .raw = (.failed (.value (.unresolvedRegister n)), s)) := by
  cases hraw : s.current.encode s.arch with
  | ok wire =>
    rw [carryOut, hraw]
    exact .inl ⟨⟨_, _, rfl⟩, rfl⟩
  | error e =>
    refine .inr ⟨fun hsame => ?_, ?_⟩
    · have hdone := h.carryOut_raw hsame
      rw [carryOut, hraw] at hdone
      cases hdone
    · obtain ⟨r, hcurrent, hindex⟩ := ValueSet.encode_eq_error_iff.1 hraw
      obtain ⟨n, rfl, ⟨hnone, -⟩ | ⟨a, harch, hunknown, rfl⟩⟩ :=
        Register.toIndex_eq_error_iff.1 hindex
      · exact absurd (Option.map_eq_none_iff.1 hnone) (h.machine_of_name hcurrent)
      · obtain ⟨m, hm, rfl⟩ := Option.map_eq_some_iff.1 harch
        exact ⟨n, m, hcurrent, hm, hunknown, by rw [carryOut, hraw]⟩

/-- In a session that started without a value, a register goes by its name only if there is a
machine, and range sets have ranges and no offset. The wire value can be shown, and is the one that
was computed when the value was set, unless the machine is another one by now; then it can fail
only because that machine does not know the name of the register. No other wire value is shown by
the same lines. -/
theorem raw_after (bench : Bench) (machine : Option Machine) (lines : List String) :
    let s := (fresh bench machine).after lines
    let g := (Setting.fresh machine).after (fresh bench machine) lines
    (∀ n, s.current = .entry (.name n) → s.machine ≠ none) ∧
    (∀ offset ranges, s.current = .signedRanges offset ranges → offset = 0 ∧ ranges ≠ []) ∧
    (∀ offset ranges, s.current = .unsignedRanges offset ranges → offset = 0 ∧ ranges ≠ []) ∧
    (∀ asked, Command.parse? asked = some .raw →
      (s.machine = g.machine →
        s.handle asked = (.done (wireLines g.wire s.current.kind) [], s)) ∧
      ((Succeeds (s.handle asked).1 ∧ (s.handle asked).2 = s) ∨
        (s.machine ≠ g.machine ∧ ∃ n m, s.current = .entry (.name n) ∧ s.machine = some m ∧
          m.registerIndex n = none ∧
          s.handle asked = (.failed (.value (.unresolvedRegister n)), s)))) ∧
    ∀ raw raw' kind kind', wireLines raw kind = wireLines raw' kind' →
      raw = raw' ∧ kind = kind' := by
  intro s g
  have h : Settled s g := settled_after (settled_fresh bench machine) lines
  refine ⟨fun n hn => h.machine_of_name hn, fun offset ranges hranges => ?_,
    fun offset ranges hranges => ?_, fun asked hasked => ?_, fun _ _ _ _ => wireLines_inj⟩
  · have hranged := h.ranged
    rwa [hranges] at hranged
  · have hranged := h.ranged
    rwa [hranges] at hranged
  · rw [handle_of_parse hasked]
    exact ⟨h.carryOut_raw, h.carryOut_raw_cases⟩

/-- A register given by its number is named, and still shown by the number; after a change to a
machine that does not know the name it cannot be shown. -/
theorem raw_after_entry :
    let s := (fresh {} (some .x8664)).after ["arch", "entry 5", "entry nowhere"]
    let t := (fresh {} (some .x8664)).after ["arch", "entry 5", "entry nowhere", "arch riscv"]
    Command.parse? "raw" = some .raw ∧ s.current = .entry (.name "rdi") ∧
    s.handle "raw" = (.done (wireLines ⟨1, 5, [], [], [], 0⟩ .entryValue) [], s) ∧
    wireLines ⟨1, 5, [], [], [], 0⟩ .entryValue =
      ["state: 1 (entry value)", "value: 0x5", "count: 0"] ∧
    t.handle "raw" = (.failed (.value (.unresolvedRegister "rdi")), t) := by
  intro s t
  have hparse : Command.parse? "raw" = some .raw := by decide
  have hs := (raw_after {} (some .x8664) ["arch", "entry 5", "entry nowhere"]).2.2.2.1 "raw" hparse
  have hcurrent : s.current = .entry (.name "rdi") := by rfl
  refine ⟨hparse, hcurrent, ?_, ?_, ?_⟩
  · exact hs.1 rfl
  · decide
  · rfl

end ShellSession

end ValueLattice
