/-
What one line does to a session. A line is known by its words. A value command sets the current
value if the value can be built and written, and what becomes the current value is the built one
with its register named; every other line leaves the current value alone.
-/
import ValueLattice.Proofs.ValueSet.RoundTrip
import ValueLattice.Shell.Session

namespace ValueLattice

/-! ## Lines -/

/-- Whether a line has these words, with any blanks between them. -/
def Spells (line : String) (words : List String) : Prop :=
  Text.words line.toList = words.map String.toList

instance (line : String) (words : List String) : Decidable (Spells line words) :=
  inferInstanceAs (Decidable (_ = _))

theorem Command.parse?_of_spells {line word : String} {args : List String}
    (h : Spells line (word :: args)) : parse? line = ofWords? word (args.map String.toList) := by
  unfold Spells at h
  unfold parse?
  rw [h, List.map_cons]
  dsimp only
  rw [String.ofList_toList]

namespace ShellSession

variable {s : ShellSession} {line : String}

theorem handle_of_parse {c : Command} (h : Command.parse? line = some c) :
    s.handle line = s.carryOut c := by
  unfold handle
  rw [h]

/-- Whether a line was carried out without an error. -/
def Succeeds (r : LineResult) : Prop :=
  ∃ output log, r = .done output log

/-! ## Value commands -/

/-- Reading back cannot fail, and only the register can come back differently. -/
theorem built_eq {spec : ValueSpec} : s.built spec = spec.build.bind fun value =>
    (value.encode s.arch).map fun _ => value.named s.arch := by
  unfold built
  cases spec.build with
  | error e => rfl
  | ok value =>
    cases hraw : value.encode s.arch with
    | error e => simp [hraw, bind, Except.bind, Except.map]
    | ok raw => simp [hraw, bind, Except.bind, Except.map, ValueSet.decode_of_encode hraw]

theorem built_eq_ok_iff {spec : ValueSpec} {v : ValueSet} : s.built spec = .ok v ↔
    ∃ value raw, spec.build = .ok value ∧ value.encode s.arch = .ok raw ∧
      v = value.named s.arch := by
  rw [built_eq]
  cases hvalue : spec.build with
  | error e => simp [Except.bind]
  | ok value =>
    cases hraw : value.encode s.arch with
    | error e => simp [Except.bind, Except.map, hraw]
    | ok raw => simp [Except.bind, Except.map, hraw, eq_comm]

/-! ## What a line can change -/

theorem carryOut_value (s : ShellSession) (spec : ValueSpec) :
    (∃ value raw, spec.build = .ok value ∧ value.encode s.arch = .ok raw ∧
      s.carryOut (.value spec) = (.done [(value.named s.arch).format .standard] [],
        { s with current := value.named s.arch })) ∨
    ((s.carryOut (.value spec)).2 = s ∧
      ∀ value raw, spec.build = .ok value → value.encode s.arch ≠ .ok raw) := by
  rw [carryOut, built_eq]
  cases hvalue : spec.build with
  | error e => exact .inr ⟨rfl, fun _ _ hok => nomatch hok⟩
  | ok value =>
    cases hraw : value.encode s.arch with
    | error e =>
      refine .inr ⟨by simp [Except.bind, Except.map, hraw], ?_⟩
      rintro _ raw ⟨⟩ hok
      rw [hraw] at hok
      cases hok
    | ok raw => exact .inl ⟨value, raw, rfl, hraw, by simp [Except.bind, Except.map, hraw]⟩

theorem carryOut_arch (s : ShellSession) (name : String) :
    (∃ m, Machine.ofName? name = some m ∧ s.carryOut (.arch (some name)) =
      (.done ["Architecture set to " ++ m.name] [], { s with machine := some m })) ∨
    (s.carryOut (.arch (some name))).2 = s := by
  rw [carryOut]
  cases hm : Machine.ofName? name with
  | none => exact .inr rfl
  | some m => exact .inl ⟨m, rfl, rfl⟩

/-- The other commands only show something. -/
theorem carryOut_shows (s : ShellSession) {c : Command} (hvalue : ∀ spec, c ≠ .value spec)
    (harch : ∀ name, c ≠ .arch (some name)) : (s.carryOut c).2 = s := by
  cases c with
  | value spec => exact absurd rfl (hvalue spec)
  | arch name =>
    cases name with
    | some name => exact absurd rfl (harch name)
    | none => rw [carryOut]; split <;> rfl
  | raw => rw [carryOut]; split <;> rfl
  | parse kind => rw [carryOut]; split; split <;> rfl
  | contains x => rfl
  | parsers => rfl
  | help => rfl
  | quit => rfl

/-- A line sets the current value, or it sets the machine, or it changes nothing; a value command
changes nothing if the value cannot be built or written. -/
theorem handle_cases (s : ShellSession) (line : String) :
    (∃ spec value raw, Command.parse? line = some (.value spec) ∧ spec.build = .ok value ∧
      value.encode s.arch = .ok raw ∧
      s.handle line = (.done [(value.named s.arch).format .standard] [],
        { s with current := value.named s.arch })) ∨
    (∃ name m, Command.parse? line = some (.arch (some name)) ∧ Machine.ofName? name = some m ∧
      s.handle line = (.done ["Architecture set to " ++ m.name] [], { s with machine := some m })) ∨
    ((s.handle line).2 = s ∧ ∀ spec value raw, Command.parse? line = some (.value spec) →
      spec.build = .ok value → value.encode s.arch ≠ .ok raw) := by
  cases hparse : Command.parse? line with
  | none =>
    refine .inr (.inr ⟨?_, fun _ _ _ h => nomatch h⟩)
    unfold handle
    rw [hparse]
  | some c =>
    rw [handle_of_parse hparse]
    by_cases hvalue : ∃ spec, c = .value spec
    · obtain ⟨spec, rfl⟩ := hvalue
      rcases s.carryOut_value spec with ⟨value, raw, hbuild, hraw, hset⟩ | ⟨hkept, hrefused⟩
      · exact .inl ⟨spec, value, raw, rfl, hbuild, hraw, hset⟩
      · refine .inr (.inr ⟨hkept, ?_⟩)
        rintro _ value raw ⟨⟩ hbuild
        exact hrefused value raw hbuild
    have hother : ∀ spec value raw, some c = some (.value spec) →
        spec.build = .ok value → value.encode s.arch ≠ .ok raw :=
      fun spec _ _ h => absurd ⟨spec, Option.some.inj h⟩ hvalue
    by_cases harch : ∃ name, c = .arch (some name)
    · obtain ⟨name, rfl⟩ := harch
      rcases s.carryOut_arch name with ⟨m, hm, hset⟩ | hkept
      · exact .inr (.inl ⟨name, m, rfl, hm, hset⟩)
      · exact .inr (.inr ⟨hkept, hother⟩)
    · exact .inr (.inr ⟨s.carryOut_shows (not_exists.1 hvalue) (not_exists.1 harch), hother⟩)

end ShellSession

end ValueLattice
