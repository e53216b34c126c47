/-
Asking for what was entered. A number that was entered as a constant, as a constant pointer or as a
member of a set is found under the token it was entered with, and one that was excluded is not
found. It is the other way round for hexadecimal tokens with the sign bit set, since they are
entered as bit patterns and asked for as unsigned numbers, which no set of signed words contains.
-/
import ValueLattice.Proofs.Numeral.Operand
import ValueLattice.Proofs.Shell.Step
import ValueLattice.Proofs.ValueSet.Membership

namespace ValueLattice

open Numeral (HighHex)

/-! ## One token read twice -/

/-- What the number `x` that is asked for with a word has to do with the signed word `v` that is
entered with it. -/
def AskedFor (word : List Char) (v : Int64) (x : Int) : Prop :=
  ¬ HighHex word ∧ x = v.toInt ∨ HighHex word ∧ signedLimit ≤ x

namespace Command

variable {word : List Char} {v : Int64}

theorem operand?_of_integer? (h : integer? word = some v) :
    ∃ x, operand? word = some x ∧ AskedFor word v x := by
  have hread : Numeral.readIntegerChars word = .ok v := by
    unfold integer? at h
    cases hw : Numeral.readIntegerChars word with
    | error e => rw [hw] at h; cases h
    | ok w => rw [hw] at h; cases h; rfl
  obtain ⟨x, hx, hcases⟩ := Numeral.readOperandChars_of_readIntegerChars hread
  refine ⟨x, by unfold operand?; rw [hx]; rfl, ?_⟩
  rcases hcases with hlow | ⟨hhigh, hle, -⟩
  · exact .inl hlow
  · exact .inr ⟨hhigh, hle⟩

theorem exists_of_mem_mapM {words : List (List Char)} {vs : List Int64}
    (h : words.mapM integer? = some vs) (hw : word ∈ words) : ∃ v ∈ vs, integer? word = some v := by
  induction words generalizing vs with
  | nil => cases hw
  | cons w words ih =>
    obtain ⟨v, hv, vs', hvs, rfl⟩ := mapM_cons_eq_some_iff.1 h
    rcases List.mem_cons.1 hw with rfl | hw
    · exact ⟨v, List.mem_cons_self, hv⟩
    · obtain ⟨u, hu, hread⟩ := ih hvs hw
      exact ⟨u, List.mem_cons_of_mem _ hu, hread⟩

end Command

namespace ValueSet

variable {word : List Char} {x : Int} {v : Int64}

/-- The operand is the entered number, or it is no signed word. -/
theorem toInt_beq_iff (h : AskedFor word v x) : (v.toInt == x) = true ↔ ¬ HighHex word := by
  have hlt := v.toInt_lt
  unfold AskedFor signedLimit at h
  rw [beq_iff_eq]
  rcases h with ⟨hlow, rfl⟩ | ⟨hhigh, hle⟩
  · exact iff_of_true rfl hlow
  · exact iff_of_false (by omega) (not_not_intro hhigh)

theorem memberOf_iff {values : List Int64} (hv : v ∈ values) (h : AskedFor word v x) :
    memberOf (IntSet.ofList values) x = true ↔ ¬ HighHex word := by
  rcases h with ⟨hlow, rfl⟩ | ⟨hhigh, hle⟩
  · rw [memberOf_toInt, IntSet.contains_iff, IntSet.mem_ofList]
    exact iff_of_true hv hlow
  · rw [memberOf_of_signedLimit_le hle]
    exact iff_of_false (by decide) (not_not_intro hhigh)

end ValueSet

/-! ## Entering and asking -/

/-- The commands by which a token is entered. -/
inductive Enters (token : String) : List String → Prop
  | constant : Enters token ["const", token]
  | pointer : Enters token ["ptr", token]
  | member {args : List String} : token ∈ args → Enters token ("in" :: args)

namespace ShellSession

variable {s : ShellSession} {line entry asked token : String} {words : List String}

/-- Whether a line is a question for membership that the session answers in this way. -/
def Answers (s : ShellSession) (asked : String) (found : Bool) : Prop :=
  ∃ x, Command.parse? asked = some (.contains x) ∧
    s.handle asked = (.done [s.currentText ++ " contains " ++ Numeral.signedHex x ++ ": " ++
      (if found then "true" else "false")] [], s)

theorem answers_of_contains {x : Int} {found : Bool}
    (hparse : Command.parse? asked = some (.contains x))
    (hfound : s.current.contains x = .ok found) : s.Answers asked found := by
  refine ⟨x, hparse, ?_⟩
  rw [handle_of_parse hparse, carryOut, membershipText, hfound]

/-- A token that was read as a signed word can be asked for, and the answer is that of the current
value. -/
theorem exists_answer {v : Int64} {p : Prop} (hasked : Spells asked ["contains", token])
    (hv : Command.integer? token.toList = some v)
    (hcurrent : ∀ x, AskedFor token.toList v x →
      ∃ found, s.current.contains x = .ok found ∧ (found = true ↔ p)) :
    ∃ found, s.Answers asked found ∧ (found = true ↔ p) := by
  obtain ⟨x, hx, hcases⟩ := Command.operand?_of_integer? hv
  obtain ⟨found, hfound, hiff⟩ := hcurrent x hcases
  have hparse : Command.parse? asked = some (.contains x) := by
    rw [Command.parse?_of_spells hasked]
    simp [Command.ofWords?, Command.single, hx]
  exact ⟨found, answers_of_contains hparse hfound, hiff⟩

/-- A value command that was carried out has set the current value. -/
theorem current_of_succeeds {word : String} {args : List String} {spec? : Option ValueSpec}
    (hentry : Spells entry (word :: args))
    (hspec : Command.ofWords? word (args.map String.toList) = spec?.map .value)
    (hdone : Succeeds (s.handle entry).1) :
    ∃ spec, spec? = some spec ∧ s.built spec = .ok (s.handle entry).2.current := by
  obtain ⟨output, log, hdone⟩ := hdone
  rw [← Command.parse?_of_spells hentry] at hspec
  cases spec? with
  | none =>
    unfold handle at hdone
    rw [hspec] at hdone
    cases hdone
  | some spec =>
    rw [handle_of_parse hspec, carryOut] at hdone ⊢
    cases hbuilt : s.built spec with
    | error e => rw [hbuilt] at hdone; cases hdone
    | ok v => exact ⟨spec, rfl, hbuilt⟩

/-- The current value after a command with one number. -/
theorem current_of_number {word : String} (make : Int64 → ValueSpec) (value : Int64 → ValueSet)
    (hspec : ∀ w, Command.ofWords? word [w] = ((Command.integer? w).map make).map .value)
    (hbuild : ∀ v, (make v).build = .ok (value v)) (hnamed : ∀ v arch, (value v).named arch = value v)
    (hentry : Spells entry [word, token]) (hdone : Succeeds (s.handle entry).1) :
    ∃ v, Command.integer? token.toList = some v ∧ (s.handle entry).2.current = value v := by
  obtain ⟨spec, hread, hbuilt⟩ := current_of_succeeds hentry (hspec token.toList) hdone
  obtain ⟨v, hv, rfl⟩ := Option.map_eq_some_iff.1 hread
  obtain ⟨_, raw, hvalue, -, hcurrent⟩ := built_eq_ok_iff.1 hbuilt
  rw [hbuild] at hvalue
  cases hvalue
  exact ⟨v, hv, hcurrent.trans (hnamed v s.arch)⟩

/-- The current value after a command with several numbers, one of which is asked for. -/
theorem current_of_numbers {word : String} {args : List String}
    (make : List Int64 → ValueSpec) (value : List Int64 → ValueSet)
    (hspec : ∀ ws, Command.ofWords? word ws = ((ws.mapM Command.integer?).map make).map .value)
    (hbuild : ∀ vs, (make vs).build = .ok (value vs))
    (hnamed : ∀ vs arch, (value vs).named arch = value vs)
    (hentry : Spells entry (word :: args)) (hmem : token ∈ args)
    (hdone : Succeeds (s.handle entry).1) :
    ∃ vs, ∃ v ∈ vs, Command.integer? token.toList = some v ∧
      (s.handle entry).2.current = value vs := by
  obtain ⟨spec, hread, hbuilt⟩ := current_of_succeeds hentry (hspec _) hdone
  obtain ⟨vs, hvs, rfl⟩ := Option.map_eq_some_iff.1 hread
  obtain ⟨_, raw, hvalue, -, hcurrent⟩ := built_eq_ok_iff.1 hbuilt
  rw [hbuild] at hvalue
  cases hvalue
  obtain ⟨v, hv, htoken⟩ := Command.exists_of_mem_mapM hvs (List.mem_map_of_mem hmem)
  exact ⟨vs, v, hv, htoken, hcurrent.trans (hnamed vs s.arch)⟩

/-- After a token was entered, the question for it is understood, and it is found unless it is
hexadecimal with the sign bit set. After it was excluded it is found only if it is that. -/
theorem contains_entered (hasked : Spells asked ["contains", token]) (hentry : Spells entry words)
    (hdone : Succeeds (s.handle entry).1) :
    (Enters token words → ∃ found, (s.handle entry).2.Answers asked found ∧
      (found = true ↔ ¬ HighHex token.toList)) ∧
    (∀ args, words = "notin" :: args → token ∈ args →
      ∃ found, (s.handle entry).2.Answers asked found ∧
        (found = true ↔ HighHex token.toList)) := by
  constructor
  · rintro (_ | _ | hmem)
    · obtain ⟨v, hv, hcurrent⟩ := current_of_number .constant .constant (fun _ => rfl)
        (fun _ => rfl) (fun _ _ => rfl) hentry hdone
      refine exists_answer hasked hv fun x hx => ⟨v.toInt == x, by rw [hcurrent]; rfl, ?_⟩
      exact ValueSet.toInt_beq_iff hx
    · obtain ⟨v, hv, hcurrent⟩ := current_of_number .constantPointer .constantPointer
        (fun _ => rfl) (fun _ => rfl) (fun _ _ => rfl) hentry hdone
      refine exists_answer hasked hv fun x hx => ⟨v.toInt == x, by rw [hcurrent]; rfl, ?_⟩
      exact ValueSet.toInt_beq_iff hx
    · obtain ⟨vs, v, hmem, hv, hcurrent⟩ := current_of_numbers .inSet
        (fun vs => .inSet (.ofList vs)) (fun _ => rfl) (fun _ => rfl) (fun _ _ => rfl) hentry hmem
        hdone
      refine exists_answer hasked hv fun x hx =>
        ⟨ValueSet.memberOf (.ofList vs) x, by rw [hcurrent]; rfl, ?_⟩
      exact ValueSet.memberOf_iff hmem hx
  · rintro args rfl hmem
    obtain ⟨vs, v, hmem, hv, hcurrent⟩ := current_of_numbers .notInSet
      (fun vs => .notInSet (.ofList vs)) (fun _ => rfl) (fun _ => rfl) (fun _ _ => rfl) hentry hmem
      hdone
    refine exists_answer hasked hv fun x hx =>
      ⟨!ValueSet.memberOf (.ofList vs) x, by rw [hcurrent]; rfl, ?_⟩
    rw [Bool.not_eq_true', ← Bool.not_eq_true, ValueSet.memberOf_iff hmem hx, not_not]

/-- A negative member in hexadecimal is found, whatever blanks stand around it. -/
theorem contains_entered_negative :
    Spells "contains -0x10" ["contains", "-0x10"] ∧ Spells " in 5  -0x10" ["in", "5", "-0x10"] ∧
    Succeeds (({} : ShellSession).handle " in 5  -0x10").1 ∧
    (({} : ShellSession).handle " in 5  -0x10").2.Answers "contains -0x10" true := by
  have hasked : Spells "contains -0x10" ["contains", "-0x10"] := by decide
  have hentry : Spells " in 5  -0x10" ["in", "5", "-0x10"] := by decide
  have hdone : Succeeds (({} : ShellSession).handle " in 5  -0x10").1 := ⟨_, _, rfl⟩
  have henters : Enters "-0x10" ["in", "5", "-0x10"] := .member (by decide)
  obtain ⟨found, hanswers, hfound⟩ := (contains_entered hasked hentry hdone).1 henters
  obtain rfl : found = true := hfound.2 (by decide)
  exact ⟨hasked, hentry, hdone, hanswers⟩

/-- A hexadecimal constant with the sign bit set is not found under its own token, and a member of
that form is found although it is excluded. -/
theorem not_contains_entered_high :
    let asked := "contains 0xffffffffffffffff"
    let entered := ({} : ShellSession).handle "const 0xffffffffffffffff"
    let excluded := ({} : ShellSession).handle "notin 0xffffffffffffffff"
    Spells asked ["contains", "0xffffffffffffffff"] ∧
    Spells "const 0xffffffffffffffff" ["const", "0xffffffffffffffff"] ∧
    Spells "notin 0xffffffffffffffff" ["notin", "0xffffffffffffffff"] ∧
    Succeeds entered.1 ∧ entered.2.Answers asked false ∧
    Succeeds excluded.1 ∧ excluded.2.Answers asked true := by
  intro asked entered excluded
  have hparse : Command.parse? asked = some (.contains 0xffffffffffffffff) := by decide
  exact ⟨by decide, by decide, by decide, ⟨_, _, rfl⟩, answers_of_contains hparse rfl, ⟨_, _, rfl⟩,
    answers_of_contains hparse rfl⟩

end ShellSession

end ValueLattice
