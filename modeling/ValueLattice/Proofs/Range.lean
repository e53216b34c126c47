/-
Ranges. Whatever changes are made to a range, each of its parts is the last value written to it, and
a step of zero is not written. The test for membership finds exactly the numbers that are reached
from the first bound in steps, and carried out in words of 128 bits it meets no fault: the distance
is computed only between the bounds, which are words of 64 bits, and the step is not zero.
-/
import Mathlib.Algebra.Ring.Int.Defs
import ValueLattice.ValueSet.Wide

namespace ValueLattice

/-! ## Changes -/

namespace Range

variable {α : Type}

namespace Change

/-- The first bound that a change writes. -/
def start? : Change α → Option α
  | start v => some v
  | _ => none

/-- The last bound that a change writes. -/
def stop? : Change α → Option α
  | stop v => some v
  | _ => none

/-- The step that a change writes. -/
def step? : Change α → Option UInt64
  | step k => if k = 0 then none else some k
  | _ => none

end Change

/-- The parts of a range that was built with some bounds and a step and then changed: the last
values written to them. -/
structure LeftBy (start stop : α) (step : UInt64) (changes : List (Change α)) (r : Range α) :
    Prop where
  start : r.start = (changes.filterMap Change.start?).getLastD start
  stop : r.stop = (changes.filterMap Change.stop?).getLastD stop
  step : r.step = (changes.filterMap Change.step?).getLastD step

theorem change_step_zero (r : Range α) : r.change (.step 0) = (.error .invalidStep, r) := rfl

theorem change_step_of_ne_zero (r : Range α) {k : UInt64} (hk : k ≠ 0) :
    r.change (.step k) = (.ok (), { r with step := k, step_ne_zero := hk }) := by
  simp only [change, setStep, dif_pos hk]

/-- One change writes one part, or nothing. -/
theorem leftBy_change (r : Range α) (c : Change α) :
    LeftBy r.start r.stop r.step [c] (r.change c).2 := by
  cases c with
  | start v => exact ⟨rfl, rfl, rfl⟩
  | stop v => exact ⟨rfl, rfl, rfl⟩
  | step k =>
    by_cases hk : k = 0
    · subst hk
      rw [change_step_zero]
      exact ⟨rfl, rfl, rfl⟩
    · rw [change_step_of_ne_zero r hk]
      refine ⟨rfl, rfl, ?_⟩
      simp [Change.step?, hk]

theorem leftBy_changeAll (r : Range α) (changes : List (Change α)) :
    LeftBy r.start r.stop r.step changes (r.changeAll changes) := by
  induction changes generalizing r with
  | nil => exact ⟨rfl, rfl, rfl⟩
  | cons c changes ih =>
    have hone := leftBy_change r c
    have hrest := ih (r.change c).2
    -- what the first change wrote is what the others start from
    have hlast : ∀ {β : Type} (f : Change α → Option β) (b : β),
        ((c :: changes).filterMap f).getLastD b =
          (changes.filterMap f).getLastD (([c].filterMap f).getLastD b) := by
      intro β f b
      cases hc : f c <;>
        simp only [List.filterMap_cons, hc, List.filterMap_nil, List.getLastD_cons,
          List.getLastD_nil]
    exact ⟨by rw [hlast, ← hone.start]; exact hrest.start,
      by rw [hlast, ← hone.stop]; exact hrest.stop, by rw [hlast, ← hone.step]; exact hrest.step⟩

theorem leftBy_of_build {start stop : α} {step : UInt64} {r : Range α}
    (h : build start stop step = .ok r) (changes : List (Change α)) :
    LeftBy start stop step changes (r.changeAll changes) := by
  unfold build at h
  split at h
  · next hne =>
    cases h
    exact leftBy_changeAll ⟨start, stop, step, hne⟩ changes
  · cases h

/-- The one refused change is the step zero, and it changes nothing. -/
theorem change_refused_iff (r : Range α) (c : Change α) (e : ValueError) :
    (r.change c).1 = .error e ↔ c = .step 0 ∧ e = .invalidStep ∧ (r.change c).2 = r := by
  cases c with
  | start v => exact iff_of_false (fun h => by cases h) (fun h => by cases h.1)
  | stop v => exact iff_of_false (fun h => by cases h) (fun h => by cases h.1)
  | step k =>
    by_cases hk : k = 0
    · subst hk
      rw [change_step_zero]
      constructor
      · intro h; cases h; exact ⟨rfl, rfl, rfl⟩
      · rintro ⟨-, rfl, -⟩; rfl
    · rw [change_step_of_ne_zero r hk]
      exact iff_of_false (fun h => by cases h) fun h => hk (Change.step.inj h.1)

/-! ## Members -/

section Members

variable [Bound α]

theorem contains_iff (r : Range α) (x : Int) :
    r.contains x = true ↔ ValueSet.RangeDenotes r x := by
  unfold contains distance? ValueSet.RangeDenotes
  split
  · next hin =>
    obtain ⟨hle, hlt⟩ := hin
    rw [Option.any_some, beq_iff_eq]
    constructor
    · intro hmod
      obtain ⟨k, hk⟩ := Nat.dvd_of_mod_eq_zero hmod
      have hdistance : ((x - Bound.toInt r.start).toNat : Int) = x - Bound.toInt r.start :=
        Int.toNat_of_nonneg (by omega)
      rw [hk, Nat.mul_comm, Int.natCast_mul] at hdistance
      exact ⟨k, by omega, hlt⟩
    · rintro ⟨k, hx, -⟩
      have hdistance : (x - Bound.toInt r.start).toNat = k * r.step.toNat := by
        have hsteps : x - Bound.toInt r.start = (k * r.step.toNat : Nat) := by
          rw [Int.natCast_mul]
          omega
        rw [hsteps, Int.toNat_natCast]
      rw [hdistance, Nat.mul_mod_left]
  · next hout =>
    refine iff_of_false (by simp) ?_
    rintro ⟨k, hx, hlt⟩
    -- steps lead upwards from the first bound
    have hup : 0 ≤ (k : Int) * r.step.toNat := Int.natCast_nonneg (k * r.step.toNat)
    exact hout ⟨by omega, hlt⟩

end Members

end Range

/-! ## Members in wide words -/

namespace Wide

theorem toInt_ofInt {n : Int} (h : -(signedLimit : Int) ≤ n ∧ n < unsignedLimit) :
    (ofInt n).toInt = n := by
  unfold signedLimit unsignedLimit at h
  exact BitVec.toInt_ofInt_eq_self (by decide) (by omega) (by omega)

theorem sub_eq_ok {a b : Wide} (h : -2 ^ 127 ≤ a.toInt - b.toInt ∧ a.toInt - b.toInt < 2 ^ 127) :
    ∃ c, sub a b = .ok c ∧ c.toInt = a.toInt - b.toInt := by
  have hfits : ¬ a.ssubOverflow b = true := by
    simp only [BitVec.ssubOverflow, Bool.or_eq_true, decide_eq_true_eq]
    omega
  exact ⟨a - b, if_neg hfits, BitVec.toInt_sub_of_not_ssubOverflow hfits⟩

/-- Words of 64 bits are too small for their difference to leave the width. -/
theorem sub_ofInt_eq_ok {m n : Int} (hm : -(signedLimit : Int) ≤ m ∧ m < unsignedLimit)
    (hn : -(signedLimit : Int) ≤ n ∧ n < unsignedLimit) :
    ∃ c, sub (ofInt m) (ofInt n) = .ok c ∧ c.toInt = m - n := by
  have hfits : -2 ^ 127 ≤ (ofInt m).toInt - (ofInt n).toInt ∧
      (ofInt m).toInt - (ofInt n).toInt < 2 ^ 127 := by
    rw [toInt_ofInt hm, toInt_ofInt hn]
    unfold signedLimit unsignedLimit at *
    omega
  obtain ⟨c, hsub, hc⟩ := sub_eq_ok hfits
  rw [toInt_ofInt hm, toInt_ofInt hn] at hc
  exact ⟨c, hsub, hc⟩

theorem rem_eq_ok {a b : Wide} (ha : 0 ≤ a.toInt) (hb : 0 < b.toInt) :
    ∃ c, rem a b = .ok c ∧ c.toInt = a.toInt % b.toInt := by
  have hne : b ≠ 0 := by
    rintro rfl
    exact absurd hb (by decide)
  have hfits : ¬ a.sdivOverflow b = true := by
    -- a quotient by a positive number is no larger than what is divided
    have hnonneg : 0 ≤ a.toInt / b.toInt := Int.ediv_nonneg ha (Int.le_of_lt hb)
    have hle : a.toInt / b.toInt ≤ a.toInt := Int.ediv_le_self _ ha
    have hlt : a.toInt < 2 ^ 127 := a.toInt_lt
    simp only [BitVec.sdivOverflow, Bool.or_eq_true, decide_eq_true_eq]
    omega
  refine ⟨a.srem b, ?_, ?_⟩
  · rw [rem, if_neg hne, if_neg hfits]
  · rw [BitVec.toInt_srem, Int.tmod_eq_emod_of_nonneg ha]

end Wide

/-- Bounds that are words of 64 bits, signed or unsigned. -/
class WordBound (α : Type) [Bound α] : Prop where
  fits : ∀ v : α, -(signedLimit : Int) ≤ Bound.toInt v ∧ Bound.toInt v < unsignedLimit

instance : WordBound Int64 where
  fits v := by
    have hle := v.le_toInt
    have hlt := v.toInt_lt
    rw [Bound.toInt_signed]
    unfold signedLimit unsignedLimit
    omega

instance : WordBound UInt64 where
  fits v := by
    have hlt := v.toNat_lt
    rw [Bound.toInt_unsigned]
    unfold signedLimit unsignedLimit
    omega

namespace Range

section Wide

variable {α : Type} [Bound α] [WordBound α]

theorem between_iff (r : Range α) (x : Wide) :
    ((Wide.ofInt (Bound.toInt r.start)).sle x && x.slt (Wide.ofInt (Bound.toInt r.stop))) = true ↔
      Bound.toInt r.start ≤ x.toInt ∧ x.toInt < Bound.toInt r.stop := by
  rw [Bool.and_eq_true, BitVec.sle_iff_toInt_le, BitVec.slt_iff_toInt_lt,
    Wide.toInt_ofInt (WordBound.fits r.start), Wide.toInt_ofInt (WordBound.fits r.stop)]

/-- Between the bounds, which have 64 bits, the distance fits, and the step is a positive divisor. -/
theorem exists_remainder (r : Range α) {x : Wide}
    (hin : Bound.toInt r.start ≤ x.toInt ∧ x.toInt < Bound.toInt r.stop) :
    ∃ distance rest, Wide.sub x (Wide.ofInt (Bound.toInt r.start)) = .ok distance ∧
      Wide.rem distance (Wide.ofInt r.step.toNat) = .ok rest ∧
      (rest = 0 ↔ (x.toInt - Bound.toInt r.start).toNat % r.step.toNat = 0) := by
  have hstart := WordBound.fits r.start
  have hstop := WordBound.fits r.stop
  have hpos : 0 < (r.step.toNat : Int) := by
    have hne : r.step.toNat ≠ 0 := fun h => r.step_ne_zero (UInt64.toNat_inj.1 h)
    omega
  have hstep : (Wide.ofInt r.step.toNat).toInt = r.step.toNat := by
    refine Wide.toInt_ofInt ⟨by omega, ?_⟩
    have hlt := r.step.toNat_lt
    unfold unsignedLimit
    omega
  have hfits : 0 ≤ x.toInt - (Wide.ofInt (Bound.toInt r.start)).toInt ∧
      x.toInt - (Wide.ofInt (Bound.toInt r.start)).toInt < 2 ^ 127 := by
    rw [Wide.toInt_ofInt hstart]
    unfold signedLimit unsignedLimit at *
    omega
  obtain ⟨distance, hsub, hdistance⟩ := Wide.sub_eq_ok ⟨by omega, hfits.2⟩
  obtain ⟨rest, hrem, hrest⟩ := Wide.rem_eq_ok (hdistance ▸ hfits.1) (hstep ▸ hpos)
  refine ⟨distance, rest, hsub, hrem, ?_⟩
  obtain ⟨n, hn⟩ := Int.eq_ofNat_of_zero_le (Int.sub_nonneg.2 hin.1)
  have hzero : (0 : Wide).toInt = 0 := BitVec.toInt_zero
  rw [← BitVec.toInt_inj, hrest, hdistance, hstep, hzero, Wide.toInt_ofInt hstart, hn,
    Int.toNat_natCast, ← Int.natCast_emod, Int.natCast_eq_zero]

/-- The test meets no fault on any word, and its answer is that of unbounded arithmetic. -/
theorem containsWide_eq (r : Range α) (x : Wide) :
    r.containsWide x = .ok (r.contains x.toInt) := by
  unfold containsWide contains distance?
  by_cases hin : Bound.toInt r.start ≤ x.toInt ∧ x.toInt < Bound.toInt r.stop
  · obtain ⟨distance, rest, hsub, hrem, hzero⟩ := r.exists_remainder hin
    simp only [if_pos hin, (r.between_iff x).2 hin, hsub, if_true, Option.any_some]
    calc (Wide.rem distance (Wide.ofInt r.step.toNat) >>= fun rest => pure (rest == 0))
        = .ok (rest == 0) := by rw [hrem]; rfl
      _ = _ := by rw [Except.ok.injEq, Bool.eq_iff_iff, beq_iff_eq, beq_iff_eq, hzero]
  · simp only [if_neg hin, mt (r.between_iff x).1 hin]
    rfl

end Wide

end Range

end ValueLattice
