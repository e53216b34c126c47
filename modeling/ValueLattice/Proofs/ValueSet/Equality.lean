/-
Equality of value sets. Two value sets are equal exactly if they are the same up to the offset of
ranges, and exactly if they feed the same words to a hasher. Hence equality is an equivalence
relation, a hash set keeps one value set of each of its classes, and whatever is observed of a value
set other than that offset is the same for equal ones: membership, text, comparison with a number,
the parts, and the wire value up to the field that holds the offset.
-/
import ValueLattice.Proofs.Hashing
import ValueLattice.ValueSet.Format
import ValueLattice.ValueSet.Membership
import ValueLattice.ValueSet.Wire

namespace ValueLattice

/-! ## Words of the parts -/

theorem delimited_register : Delimited (feed : Register → List HashWord) := by
  intro a b r s h
  cases a with
  | name n => cases b with
    | name m => cases h; exact ⟨rfl, rfl⟩
    | index j => cases h
  | index i => cases b with
    | name m => cases h
    | index j => cases h; exact ⟨rfl, rfl⟩

theorem delimited_signed : Delimited fun v : Int64 => [.signed v] := by
  intro a b r s h
  cases h
  exact ⟨rfl, rfl⟩

theorem delimited_signedRange : Delimited (feed : Range Int64 → List HashWord) := by
  intro a b r s h
  obtain ⟨start, stop, step, hstep⟩ := a
  obtain ⟨start', stop', step', hstep'⟩ := b
  cases h
  exact ⟨rfl, rfl⟩

theorem delimited_unsignedRange : Delimited (feed : Range UInt64 → List HashWord) := by
  intro a b r s h
  obtain ⟨start, stop, step, hstep⟩ := a
  obtain ⟨start', stop', step', hstep'⟩ := b
  cases h
  exact ⟨rfl, rfl⟩

theorem delimited_tableEntry : Delimited (feed : TableEntry → List HashWord) := by
  intro a b r s h
  obtain ⟨inputs, output⟩ := a
  obtain ⟨inputs', output'⟩ := b
  have hfeed (inputs : List Int64) (output : Int64) (r : List HashWord) :
      feed (⟨inputs, output⟩ : TableEntry) ++ r =
        feedList (fun v : Int64 => [.signed v]) inputs ++ (.signed output :: r) := by
    simp [feed]
  rw [hfeed, hfeed] at h
  obtain ⟨rfl, hrest⟩ := delimited_signed.feedList h
  cases hrest
  exact ⟨rfl, rfl⟩

namespace LookupTable

instance : LawfulBEq LookupTable where
  eq_of_beq h := ext_entries (eq_of_beq (α := List TableEntry) h)
  rfl {t} := beq_self_eq_true t.entries

theorem eq_of_feed_eq {t u : LookupTable} (h : feed t = feed u) : t = u :=
  ext_entries (delimited_tableEntry.feedList.injective h)

end LookupTable

theorem IntSet.eq_of_feed_eq {s t : IntSet} (h : feed s = feed t) : s = t := by
  obtain ⟨members, hs⟩ := s
  obtain ⟨members', ht⟩ := t
  obtain rfl : members = members' := delimited_signed.feedList.injective h
  rfl

namespace ValueSet

variable {a b c : ValueSet}

/-! ## Equal value sets -/

/-- The value set with the offset of its ranges left out. -/
def withoutOffset : ValueSet → ValueSet
  | signedRanges _ ranges => .signedRanges 0 ranges
  | unsignedRanges _ ranges => .unsignedRanges 0 ranges
  | other => other

theorem sameFact_withoutOffset (a b : ValueSet) :
    sameFact a.withoutOffset b.withoutOffset = sameFact a b := by
  cases a <;> cases b <;> rfl

theorem sameFact_self (a : ValueSet) : sameFact a a = true := by
  cases a <;> simp [sameFact]

theorem beq_iff : (a == b) = true ↔ a.withoutOffset = b.withoutOffset := by
  have hbeq : (a == b) = sameFact a b := rfl
  rw [hbeq]
  constructor
  · intro h
    unfold sameFact at h
    split at h <;> simp_all [withoutOffset]
  · intro h
    rw [← sameFact_withoutOffset, h]
    exact sameFact_self _

theorem feed_withoutOffset (s : ValueSet) : feed s.withoutOffset = feed s := by
  cases s <;> rfl

/-- The first word tells the kind, and the others tell its contents. -/
theorem withoutOffset_eq_of_feed_eq (h : feed a = feed b) : a.withoutOffset = b.withoutOffset := by
  cases a with
  | undetermined => cases b <;> cases h; rfl
  | entry r => cases b with
    | entry r' =>
      obtain rfl := delimited_register.injective (List.cons.inj h).2
      rfl
    | _ => cases h
  | constant v => cases b <;> cases h; rfl
  | constantPointer v => cases b <;> cases h; rfl
  | stackOffset v => cases b <;> cases h; rfl
  | returnAddress => cases b <;> cases h; rfl
  | imported v => cases b <;> cases h; rfl
  | signedRanges offset ranges => cases b with
    | signedRanges offset' ranges' =>
      obtain rfl := delimited_signedRange.feedList.injective (List.cons.inj h).2
      rfl
    | _ => cases h
  | unsignedRanges offset ranges => cases b with
    | unsignedRanges offset' ranges' =>
      obtain rfl := delimited_unsignedRange.feedList.injective (List.cons.inj h).2
      rfl
    | _ => cases h
  | table t => cases b with
    | table t' =>
      obtain rfl := LookupTable.eq_of_feed_eq (List.cons.inj h).2
      rfl
    | _ => cases h
  | inSet values => cases b with
    | inSet values' =>
      obtain rfl := IntSet.eq_of_feed_eq (List.cons.inj h).2
      rfl
    | _ => cases h
  | notInSet values => cases b with
    | notInSet values' =>
      obtain rfl := IntSet.eq_of_feed_eq (List.cons.inj h).2
      rfl
    | _ => cases h

theorem beq_iff_feed_eq : (a == b) = true ↔ feed a = feed b := by
  rw [beq_iff]
  constructor
  · intro h
    rw [← feed_withoutOffset a, h, feed_withoutOffset]
  · exact withoutOffset_eq_of_feed_eq

theorem equivalence_beq : Equivalence fun a b : ValueSet => (a == b) = true where
  refl _ := beq_iff.2 rfl
  symm h := beq_iff.2 (beq_iff.1 h).symm
  trans h h' := beq_iff.2 ((beq_iff.1 h).trans (beq_iff.1 h'))

/-- Value sets are told apart by the facts they state. -/
def facts : Setoid ValueSet :=
  ⟨fun a b => (a == b) = true, equivalence_beq⟩

instance (a b : ValueSet) : Decidable (facts a b) :=
  inferInstanceAs (Decidable ((a == b) = true))

/-- A hash set refuses a value set exactly if it holds an equal one. -/
theorem sameInSet_iff (a b : ValueSet) :
    sameInSet a b = true ↔ Quotient.mk facts a = Quotient.mk facts b := by
  have hset : sameInSet a b = (feed a == feed b && a == b) := rfl
  rw [hset, Bool.and_eq_true, beq_iff_eq, ← beq_iff_feed_eq, and_self, Quotient.eq]
  rfl

/-! ## Observations -/

/-- Equal value sets are the same, or they are ranges that differ in their offsets. -/
theorem eq_or_ranges_of_beq (h : (a == b) = true) :
    a = b ∨
    (∃ offset offset' ranges, a = .signedRanges offset ranges ∧ b = .signedRanges offset' ranges) ∨
    (∃ offset offset' ranges,
      a = .unsignedRanges offset ranges ∧ b = .unsignedRanges offset' ranges) := by
  have h := beq_iff.1 h
  cases a with
  | signedRanges offset ranges => cases b with
    | signedRanges offset' ranges' => cases h; exact .inr (.inl ⟨_, _, _, rfl, rfl⟩)
    | _ => cases h
  | unsignedRanges offset ranges => cases b with
    | unsignedRanges offset' ranges' => cases h; exact .inr (.inr ⟨_, _, _, rfl, rfl⟩)
    | _ => cases h
  | _ =>
    cases b <;> cases h
    exact .inl rfl

/-- Whether two value sets are written alike, up to the offset that ranges have on the wire. -/
def WrittenAlike (a b : ValueSet) (arch : Option Architecture) : Prop :=
  (∃ e, a.encode arch = .error e ∧ b.encode arch = .error e) ∨
  ∃ raw value, a.encode arch = .ok raw ∧ b.encode arch = .ok { raw with value } ∧
    (value = raw.value ∨
      a.kind ∈ [.signedRange, .unsignedRange] ∧ b.kind ∈ [.signedRange, .unsignedRange])

/-- What is the same for two value sets that state the same fact. -/
structure ObservedAlike (a b : ValueSet) : Prop where
  contains : ∀ x, a.contains x = b.contains x
  format : ∀ layout, a.format layout = b.format layout
  isValue : ∀ n, a.isValue n = b.isValue n
  kind : a.kind = b.kind
  count : a.count = b.count
  mapping : a.table?.map LookupTable.mapping = b.table?.map LookupTable.mapping
  value : a.value? = b.value?
  values : a.values? = b.values?
  written : ∀ arch, WrittenAlike a b arch

theorem writtenAlike_self (a : ValueSet) (arch : Option Architecture) : WrittenAlike a a arch := by
  cases hraw : a.encode arch with
  | error e => exact .inl ⟨e, hraw, hraw⟩
  | ok raw => exact .inr ⟨raw, raw.value, hraw, hraw, .inl rfl⟩

theorem observedAlike_of_beq (h : (a == b) = true) : ObservedAlike a b := by
  rcases eq_or_ranges_of_beq h with rfl | ⟨_, offset', _, rfl, rfl⟩ | ⟨_, offset', _, rfl, rfl⟩
  · exact ⟨fun _ => rfl, fun _ => rfl, fun _ => rfl, rfl, rfl, rfl, rfl, rfl, writtenAlike_self a⟩
  · refine ⟨fun _ => rfl, fun _ => rfl, fun _ => rfl, rfl, rfl, rfl, rfl, rfl, fun _ => .inr ?_⟩
    exact ⟨_, offset', rfl, rfl, .inr ⟨by simp [kind], by simp [kind]⟩⟩
  · refine ⟨fun _ => rfl, fun _ => rfl, fun _ => rfl, rfl, rfl, rfl, rfl, rfl, fun _ => .inr ?_⟩
    exact ⟨_, offset', rfl, rfl, .inr ⟨by simp [kind], by simp [kind]⟩⟩

/-- Equality of value sets is an equivalence relation, and the hasher is fed the same words for
equal value sets only. A hash set keeps as many value sets as there are classes of equal ones, and
equal value sets are observed alike. -/
theorem beq_respected :
    (Equivalence fun a b : ValueSet => (a == b) = true) ∧
    (∀ a b : ValueSet, (a == b) = true ↔ feed a = feed b) ∧
    (∀ sets : List ValueSet,
      distinctCount sets = (sets.map (Quotient.mk facts)).toFinset.card) ∧
    ∀ a b : ValueSet, (a == b) = true → ObservedAlike a b :=
  ⟨equivalence_beq, fun _ _ => beq_iff_feed_eq, distinctCount_eq_card sameInSet_iff,
    fun _ _ => observedAlike_of_beq⟩

/-- Two range sets that differ in their offset count once, and are written with their offsets. -/
theorem beq_respected_offset :
    let ranges : List (Range UInt64) := [⟨0, 4, 1, by decide⟩]
    let a := unsignedRanges 0 ranges
    let b := unsignedRanges 8 ranges
    (a == b) = true ∧ distinctCount [a, b, a] = 1 ∧ ObservedAlike a b := by
  intro ranges a b
  have hbeq : (a == b) = true := by decide
  refine ⟨hbeq, ?_, beq_respected.2.2.2 a b hbeq⟩
  rw [beq_respected.2.2.1]
  decide

end ValueSet

end ValueLattice
