/-
Membership means what it says: `contains` finds exactly the numbers that a value set of a numeric kind
denotes, also beyond the words of 64 bits, and refuses every other kind. Carried out in words of 128
bits it meets no overflow and no division by zero and gives the same answer.
-/
import ValueLattice.Proofs.Range

namespace ValueLattice

/-- A test that never faults can be made on one item after the other. -/
theorem anyM_eq_ok {ε α : Type} {p : α → Except ε Bool} {q : α → Bool}
    (h : ∀ a, p a = .ok (q a)) (as : List α) : as.anyM p = .ok (as.any q) := by
  induction as with
  | nil => rfl
  | cons a as ih =>
    rw [List.anyM, h, List.any_cons]
    cases q a with
    | true => rfl
    | false => exact ih

namespace ValueSet

/-! ## Members of sets -/

theorem asWord?_eq_some_iff {x : Int} {v : Int64} : asWord? x = some v ↔ v.toInt = x := by
  have hle := v.le_toInt
  have hlt := v.toInt_lt
  unfold asWord? signedLimit
  constructor
  · intro h
    split at h
    · next hfits =>
      cases h
      exact Int64.toInt_ofInt_of_le (by omega) (by omega)
    · cases h
  · rintro rfl
    rw [if_pos (by omega), Int64.ofInt_toInt]

theorem asWord?_toInt (v : Int64) : asWord? v.toInt = some v :=
  asWord?_eq_some_iff.2 rfl

theorem memberOf_toInt (values : IntSet) (v : Int64) :
    memberOf values v.toInt = values.contains v := by
  unfold memberOf
  rw [asWord?_toInt]

/-- A number beyond the signed words is in no set of them. -/
theorem memberOf_of_signedLimit_le {x : Int} (h : signedLimit ≤ x) (values : IntSet) :
    memberOf values x = false := by
  unfold memberOf asWord?
  rw [if_neg (by omega)]

theorem memberOf_eq_true_iff {values : IntSet} {x : Int} :
    memberOf values x = true ↔ ∃ v ∈ values.members, x = v.toInt := by
  constructor
  · intro h
    unfold memberOf at h
    split at h
    · next v hv => exact ⟨v, IntSet.contains_iff.1 h, (asWord?_eq_some_iff.1 hv).symm⟩
    · cases h
  · rintro ⟨v, hv, rfl⟩
    rw [memberOf_toInt, IntSet.contains_iff]
    exact hv

/-! ## Members of value sets -/

theorem any_contains_iff {α : Type} [Bound α] {ranges : List (Range α)} {x : Int} :
    (ranges.any fun r => r.contains x) = true ↔ ∃ r ∈ ranges, RangeDenotes r x := by
  simp only [List.any_eq_true, Range.contains_iff]

theorem exists_contains_of_numeric {s : ValueSet} (h : s.kind ∈ numericKinds) (x : Int) :
    ∃ found, s.contains x = .ok found ∧ (found = true ↔ s.Denotes x) := by
  cases s with
  | constant v => exact ⟨_, rfl, beq_iff_eq.trans eq_comm⟩
  | constantPointer v => exact ⟨_, rfl, beq_iff_eq.trans eq_comm⟩
  | signedRanges offset ranges => exact ⟨_, rfl, any_contains_iff⟩
  | unsignedRanges offset ranges => exact ⟨_, rfl, any_contains_iff⟩
  | inSet values => exact ⟨_, rfl, memberOf_eq_true_iff⟩
  | notInSet values =>
    refine ⟨_, rfl, ?_⟩
    rw [Bool.not_eq_true', ← Bool.not_eq_true, memberOf_eq_true_iff]
    rfl
  | _ => simp [kind, numericKinds] at h

theorem contains_of_not_numeric {s : ValueSet} (h : s.kind ∉ numericKinds) (x : Int) :
    s.contains x = .error (.notComparable s.kind) := by
  cases s with
  | undetermined => rfl
  | entry _ => rfl
  | stackOffset _ => rfl
  | returnAddress => rfl
  | imported _ => rfl
  | table _ => rfl
  | _ => simp [kind, numericKinds] at h

theorem ofInt_toInt_beq (v : Int64) (x : Wide) :
    (Wide.ofInt v.toInt == x) = (v.toInt == x.toInt) := by
  have hv : (Wide.ofInt v.toInt).toInt = v.toInt := Wide.toInt_ofInt (WordBound.fits v)
  rw [Bool.eq_iff_iff, beq_iff_eq, beq_iff_eq, ← BitVec.toInt_inj, hv]

theorem containsWide_eq (s : ValueSet) (x : Wide) : s.containsWide x = .ok (s.contains x.toInt) := by
  cases s with
  | constant v => rw [containsWide, ofInt_toInt_beq]; rfl
  | constantPointer v => rw [containsWide, ofInt_toInt_beq]; rfl
  | signedRanges offset ranges =>
    rw [containsWide, anyM_eq_ok fun r => r.containsWide_eq x]
    rfl
  | unsignedRanges offset ranges =>
    rw [containsWide, anyM_eq_ok fun r => r.containsWide_eq x]
    rfl
  | _ => rfl

/-- A number is found if and only if the value set denotes it, where the parts of a range are the
last values that were written to it and no step is ever zero. In words of 128 bits the answer is the
same for every word, and there is always one. -/
theorem contains_denotes (s : ValueSet) :
    (s.kind ∈ numericKinds →
      ∀ x, ∃ found, s.contains x = .ok found ∧ (found = true ↔ s.Denotes x)) ∧
    (s.kind ∉ numericKinds → ∀ x, s.contains x = .error (.notComparable s.kind)) ∧
    (∀ x : Wide, s.containsWide x = .ok (s.contains x.toInt)) ∧
    (∀ {α : Type} {start stop : α} {step : UInt64} {r : Range α} (changes : List (Range.Change α)),
      Range.build start stop step = .ok r →
        Range.LeftBy start stop step changes (r.changeAll changes)) ∧
    (∀ {α : Type} (r : Range α) (c : Range.Change α) (e : ValueError),
      (r.change c).1 = .error e ↔ c = .step 0 ∧ e = .invalidStep ∧ (r.change c).2 = r) :=
  ⟨exists_contains_of_numeric, contains_of_not_numeric, s.containsWide_eq,
    fun changes hbuild => Range.leftBy_of_build hbuild changes, Range.change_refused_iff⟩

/-- A reversed range that changes turn into the numbers -6, -2, 2 and 6 contains the last of them,
and the least word of 128 bits is compared with its bounds without a fault. -/
theorem contains_denotes_changed :
    ∃ r : Range Int64, Range.build 5 1 1 = .ok r ∧
      let changes := [.start (-6), .step 0, .stop 10, .step 4]
      let s := signedRanges 7 [r.changeAll changes]
      Range.LeftBy 5 1 1 changes (r.changeAll changes) ∧
      s.kind ∈ numericKinds ∧ s.contains 6 = .ok true ∧
      s.containsWide (BitVec.intMin 128) = .ok (s.contains (-2 ^ 127)) ∧
      (stackOffset 6).kind ∉ numericKinds ∧
      (stackOffset 6).contains 6 = .error (.notComparable .stackOffset) ∧
      r.change (.step 0) = (.error .invalidStep, r) := by
  have hbuild : Range.build 5 1 1 = .ok (⟨5, 1, 1, by decide⟩ : Range Int64) := rfl
  refine ⟨_, hbuild, ?_⟩
  intro changes s
  have hleft := (contains_denotes s).2.2.2.1 changes hbuild
  have hnumeric : s.kind ∈ numericKinds := by decide
  have hother : (stackOffset 6).kind ∉ numericKinds := by decide
  obtain ⟨found, hfound, hiff⟩ := (contains_denotes s).1 hnumeric 6
  obtain rfl : found = true := hiff.2 ⟨_, List.mem_singleton_self _, 3, by decide, by decide⟩
  refine ⟨hleft, hnumeric, hfound, (contains_denotes s).2.2.1 _, hother,
    (contains_denotes (stackOffset 6)).2.1 hother 6, Prod.ext rfl ?_⟩
  exact (((contains_denotes s).2.2.2.2 _ (.step 0) .invalidStep).1 rfl).2.2

end ValueSet

end ValueLattice
