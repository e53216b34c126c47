/-
Rows of bit patterns read as signed and as unsigned ranges. If the sign bits of both bounds of each
row agree, the two readings contain the same words; a row whose bounds lie on both sides of the sign
bit is empty in one of the readings.
-/
import ValueLattice.Proofs.Numeral.Reading
import ValueLattice.Proofs.ValueSet.NormalForm
import ValueLattice.ValueSet.Membership

namespace ValueLattice

/-! ## Sign bits -/

/-- Bit 63 of a word. -/
def signBit (w : UInt64) : Bool :=
  w.toNat.testBit 63

theorem signBit_eq_true_iff {w : UInt64} : signBit w = true ↔ signedLimit ≤ w.toNat := by
  have hlt := w.toNat_lt
  unfold signBit signedLimit
  rw [Nat.testBit_eq_decide_div_mod_eq, decide_eq_true_eq]
  omega

theorem signBit_eq_false_iff {w : UInt64} : signBit w = false ↔ w.toNat < signedLimit := by
  rw [← Bool.not_eq_true, signBit_eq_true_iff, Nat.not_le]

theorem toInt_of_signBit {w : UInt64} (h : signBit w = true) :
    w.toInt64.toInt = w.toNat - unsignedLimit := by
  rw [Numeral.toInt_toInt64, if_neg (Nat.not_lt.2 (signBit_eq_true_iff.1 h))]

theorem toInt_of_not_signBit {w : UInt64} (h : signBit w = false) :
    w.toInt64.toInt = w.toNat := by
  rw [Numeral.toInt_toInt64, if_pos (signBit_eq_false_iff.1 h)]

theorem emod_of_not_neg {x : Int64} (h : ¬ x.toInt < 0) : x.toInt % unsignedLimit = x.toInt := by
  have hlt := x.toInt_lt
  unfold unsignedLimit
  omega

theorem emod_of_neg {x : Int64} (h : x.toInt < 0) :
    x.toInt % unsignedLimit = x.toInt + unsignedLimit := by
  have hle := x.le_toInt
  unfold unsignedLimit
  omega

/-! ## Rows and ranges -/

/-- The range of a row, with the bounds read in one way. -/
structure WireRange.ReadAs {α : Type} (read : UInt64 → α) (row : WireRange) (r : Range α) :
    Prop where
  start : r.start = read row.start
  stop : r.stop = read row.stop
  step : r.step = row.step

theorem any_eq_any_of_forall₂ {α β γ : Type} {R : α → β → Prop} {S : α → γ → Prop}
    {f : β → Bool} {g : γ → Bool} {as : List α} {bs : List β} {cs : List γ}
    (hbs : List.Forall₂ R as bs) (hcs : List.Forall₂ S as cs)
    (h : ∀ a ∈ as, ∀ b c, R a b → S a c → f b = g c) : bs.any f = cs.any g := by
  induction hbs generalizing cs with
  | nil => cases hcs; rfl
  | cons hb _ ih =>
    cases hcs with
    | cons hc hcs =>
      rw [List.any_cons, List.any_cons, h _ List.mem_cons_self _ _ hb hc,
        ih hcs fun a ha => h a (List.mem_cons_of_mem _ ha)]

namespace Range

open WireRange (ReadAs)

theorem forall₂_readAs {α : Type} {read : UInt64 → α} {rows : List WireRange}
    {rs : List (Range α)}
    (h : buildAll (rows.map fun row => (read row.start, read row.stop, row.step)) = .ok rs) :
    List.Forall₂ (ReadAs read) rows rs := by
  have hparts : List.Forall₂ Eq (rs.map fun r => (r.start, r.stop, r.step))
      (rows.map fun row => (read row.start, read row.stop, row.step)) := by
    rw [buildAll_eq_ok_iff.1 h]
    exact List.forall₂_refl _
  rw [List.forall₂_map_left_iff, List.forall₂_map_right_iff] at hparts
  refine hparts.flip.imp fun row r hpart => ?_
  obtain ⟨hstart, hrest⟩ := Prod.mk.inj hpart
  obtain ⟨hstop, hstep⟩ := Prod.mk.inj hrest
  exact ⟨hstart, hstop, hstep⟩

theorem contains_eq_false_of_le {α : Type} [Bound α] {r : Range α}
    (h : Bound.toInt r.stop ≤ Bound.toInt r.start) (x : Int) : r.contains x = false := by
  unfold contains distance?
  rw [if_neg (by omega)]
  rfl

section Readings

variable {row : WireRange} {r : Range Int64} {u : Range UInt64}

/-- A word lies between the bounds in both readings or in neither, and is as far from the first. -/
theorem distance?_eq_of_readAs (hr : row.ReadAs UInt64.toInt64 r) (hu : row.ReadAs id u)
    (hsign : signBit row.start = signBit row.stop) (x : Int64) :
    r.distance? x.toInt = u.distance? (x.toInt % unsignedLimit) := by
  unfold distance?
  simp only [Bound.toInt_signed, Bound.toInt_unsigned, hr.start, hr.stop, hu.start, hu.stop, id]
  -- a word with the other sign than the bounds is outside in both readings
  cases hstart : signBit row.start with
  | false =>
    have hstop : signBit row.stop = false := hsign ▸ hstart
    rw [toInt_of_not_signBit hstart, toInt_of_not_signBit hstop]
    rw [signBit_eq_false_iff] at hstop
    by_cases hx : x.toInt < 0
    · rw [emod_of_neg hx, if_neg (by omega), if_neg]
      have hle := x.le_toInt
      unfold signedLimit at hstop
      unfold unsignedLimit
      omega
    · rw [emod_of_not_neg hx]
  | true =>
    have hstop : signBit row.stop = true := hsign ▸ hstart
    rw [toInt_of_signBit hstart, toInt_of_signBit hstop]
    rw [signBit_eq_true_iff] at hstart
    by_cases hx : x.toInt < 0
    · have hdistance : x.toInt - (row.start.toNat - unsignedLimit) =
          x.toInt + unsignedLimit - row.start.toNat := by omega
      rw [emod_of_neg hx, hdistance]
      exact if_congr (by omega) rfl rfl
    · have hlt := x.toInt_lt
      have hword := row.stop.toNat_lt
      rw [emod_of_not_neg hx]
      unfold signedLimit at hstart
      unfold unsignedLimit
      rw [if_neg (by omega), if_neg (by omega)]

theorem contains_eq_of_readAs (hr : row.ReadAs UInt64.toInt64 r) (hu : row.ReadAs id u)
    (hsign : signBit row.start = signBit row.stop) (x : Int64) :
    r.contains x.toInt = u.contains (x.toInt % unsignedLimit) := by
  unfold contains
  rw [distance?_eq_of_readAs hr hu hsign, hr.step, hu.step]

/-- A last bound with the sign bit is read as a negative number. -/
theorem contains_signed_eq_false (hr : row.ReadAs UInt64.toInt64 r)
    (hstart : signBit row.start = false) (hstop : signBit row.stop = true) (x : Int) :
    r.contains x = false := by
  refine contains_eq_false_of_le ?_ x
  have hlt := row.stop.toNat_lt
  rw [Bound.toInt_signed, Bound.toInt_signed, hr.start, hr.stop, toInt_of_not_signBit hstart,
    toInt_of_signBit hstop]
  unfold unsignedLimit
  omega

theorem contains_unsigned_eq_false (hu : row.ReadAs id u)
    (hstart : signBit row.start = true) (hstop : signBit row.stop = false) (x : Int) :
    u.contains x = false := by
  refine contains_eq_false_of_le ?_ x
  rw [signBit_eq_true_iff] at hstart
  rw [signBit_eq_false_iff] at hstop
  rw [Bound.toInt_unsigned, Bound.toInt_unsigned, hu.start, hu.stop, id, id]
  omega

end Readings

end Range

/-! ## Value sets -/

namespace ValueSet

open WireRange (ReadAs)

/-- Rows with positive steps are read as signed and as unsigned ranges. The readings contain the same
words if each row has bounds with equal sign bits. A row whose last bound alone has the sign bit is an
empty signed range, and one whose first bound alone has it is an empty unsigned range. -/
theorem readings_agree {raw : WireValueSet} (arch : Option Architecture)
    (hcount : raw.count = raw.ranges.length) (hstep : ∀ row ∈ raw.ranges, row.step ≠ 0) :
    ∃ rs us,
      decode { raw with state := Kind.signedRange.tag } arch = .ok (.signedRanges raw.value rs) ∧
      decode { raw with state := Kind.unsignedRange.tag } arch =
        .ok (.unsignedRanges raw.value us) ∧
      ((∀ row ∈ raw.ranges, signBit row.start = signBit row.stop) → ∀ x : Int64,
        (signedRanges raw.value rs).contains x.toInt =
          (unsignedRanges raw.value us).contains (x.toInt % unsignedLimit)) ∧
      List.Forall₂ (fun row r => signBit row.start = false → signBit row.stop = true →
        ∀ x, Range.contains r x = false) raw.ranges rs ∧
      List.Forall₂ (fun row u => signBit row.start = true → signBit row.stop = false →
        ∀ x, Range.contains u x = false) raw.ranges us := by
  obtain ⟨rs, hrs⟩ := exists_buildAll_eq_ok
    (raw.ranges.map fun row => (row.start.toInt64, row.stop.toInt64, row.step))
    (by simpa using hstep)
  obtain ⟨us, hus⟩ := exists_buildAll_eq_ok
    (raw.ranges.map fun row => (row.start, row.stop, row.step)) (by simpa using hstep)
  have hsigned : List.Forall₂ (ReadAs UInt64.toInt64) raw.ranges rs := Range.forall₂_readAs hrs
  have hunsigned : List.Forall₂ (ReadAs id) raw.ranges us := Range.forall₂_readAs hus
  refine ⟨rs, us, decode_signedRanges rfl hcount hrs, decode_unsignedRanges rfl hcount hus, ?_,
    hsigned.imp fun _ _ => Range.contains_signed_eq_false,
    hunsigned.imp fun _ _ => Range.contains_unsigned_eq_false⟩
  intro hsign x
  refine congrArg Except.ok (any_eq_any_of_forall₂ hsigned hunsigned ?_)
  intro row hrow r u hr hu
  exact Range.contains_eq_of_readAs hr hu (hsign row hrow) x

/-- The least word is in a range of negative words in either reading, and a row from 1 to the least
word holds nothing when it is signed. -/
theorem readings_agree_least :
    let least : UInt64 := 0x8000000000000000
    let raw : WireValueSet := ⟨0, 9, [⟨least, least + 5, 2⟩, ⟨3, 4, 1⟩], [], [], 2⟩
    let crossing : WireValueSet := ⟨0, 9, [⟨1, least, 3⟩], [], [], 1⟩
    (∀ row ∈ raw.ranges, signBit row.start = signBit row.stop ∧ row.step ≠ 0) ∧
    (∃ s u, decode { raw with state := 7 } none = .ok s ∧
      decode { raw with state := 8 } none = .ok u ∧
      s.contains (-0x8000000000000000) = .ok true ∧ u.contains 0x8000000000000000 = .ok true) ∧
    (∀ row ∈ crossing.ranges, row.step ≠ 0) ∧
    ∃ r, decode { crossing with state := 7 } none = .ok (.signedRanges 9 [r]) ∧
      ∀ x, r.contains x = false := by
  intro least raw crossing
  have hrows : ∀ row ∈ raw.ranges, signBit row.start = signBit row.stop ∧ row.step ≠ 0 := by decide
  have hstep : ∀ row ∈ crossing.ranges, row.step ≠ 0 := by decide
  have hrowCount : raw.count = raw.ranges.length := rfl
  have hcrossingCount : crossing.count = crossing.ranges.length := rfl
  obtain ⟨rs, us, hrs, hus, hagree, -⟩ :=
    readings_agree none hrowCount fun row hrow => (hrows row hrow).2
  obtain ⟨rs', -, hrs', -, -, hempty, -⟩ := readings_agree none hcrossingCount hstep
  have hsame := hagree (fun row hrow => (hrows row hrow).1) (-0x8000000000000000)
  have hfound : (decode { raw with state := 7 } none).bind (contains · (-0x8000000000000000)) =
      .ok true := by decide
  have hfound : (signedRanges 9 rs).contains (-0x8000000000000000) = .ok true :=
    (congrArg (Except.bind · _) hrs).symm.trans hfound
  refine ⟨hrows, ⟨_, _, hrs, hus, hfound, hsame.symm.trans hfound⟩, hstep, ?_⟩
  · cases hempty with
    | cons h hrest =>
      cases hrest
      exact ⟨_, hrs', h (by decide) (by decide)⟩

end ValueSet

end ValueLattice
