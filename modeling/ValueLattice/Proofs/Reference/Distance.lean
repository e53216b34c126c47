/-
The text of a stack access. Between the name and the closing bracket it tells how far the access
lies from the variable: nothing if it does not, and otherwise a sign and the exact magnitude. The
distance of two words takes one bit more than a word has, so its magnitude can be any unsigned word;
in words of 128 bits it is computed without a fault. Accesses with one operand and one name have the
same text exactly if they lie equally far from their variables.
-/
import ValueLattice.Proofs.Numeral.Shown
import ValueLattice.Proofs.Range
import ValueLattice.Reference.Use

namespace ValueLattice.StackUse

variable {u w : StackUse} {s : String} {d e : Int}

/-! ## Distances -/

/-- How far the access lies from the variable. -/
def distance (u : StackUse) : Int :=
  u.offset.toInt - u.var.location.storage.toInt

/-- The magnitude is an unsigned word, although the distance need not be a signed one. -/
theorem natAbs_distance_lt (u : StackUse) : u.distance.natAbs < unsignedLimit := by
  have hoffset := u.offset.le_toInt
  have hoffset' := u.offset.toInt_lt
  have hstorage := u.var.location.storage.le_toInt
  have hstorage' := u.var.location.storage.toInt_lt
  unfold distance unsignedLimit
  omega

theorem distance_eq_zero_iff : u.distance = 0 ↔ u.offset = u.var.location.storage := by
  rw [distance, Int.sub_eq_zero, Int64.toInt_inj]

theorem distance_neg_iff :
    u.distance < 0 ↔ u.offset.toInt < u.var.location.storage.toInt := by
  unfold distance
  omega

/-- Words of 128 bits have room for the distance. -/
theorem sub_wide (u : StackUse) : ∃ wide,
    Wide.sub (Wide.ofInt u.offset.toInt) (Wide.ofInt u.var.location.storage.toInt) = .ok wide ∧
      wide.toInt = u.distance :=
  Wide.sub_ofInt_eq_ok (WordBound.fits u.offset) (WordBound.fits u.var.location.storage)

/-! ## What a text tells -/

/-- Whether a text tells a distance: the empty text tells zero, and any other distance is told by
its sign and hexadecimal digits of its magnitude. -/
inductive Tells : String → Int → Prop
  | nothing : Tells "" 0
  | ahead {s : String} {digits : List Char} {d : Int} : 0 < d →
      Numeral.Digits 16 digits d.natAbs → s.toList = '+' :: '0' :: 'x' :: digits → Tells s d
  | behind {s : String} {digits : List Char} {d : Int} : d < 0 →
      Numeral.Digits 16 digits d.natAbs → s.toList = '-' :: '0' :: 'x' :: digits → Tells s d

theorem Tells.eq_empty_iff (h : Tells s d) : s = "" ↔ d = 0 := by
  rw [← String.toList_inj]
  cases h with
  | nothing => exact iff_of_true rfl rfl
  | ahead hd _ hs => exact iff_of_false (by simp [hs]) (by omega)
  | behind hd _ hs => exact iff_of_false (by simp [hs]) (by omega)

theorem Tells.head?_eq_minus_iff (h : Tells s d) : s.toList.head? = some '-' ↔ d < 0 := by
  cases h with
  | nothing => exact iff_of_false (by simp) (by omega)
  | ahead hd _ hs => exact iff_of_false (by simp [hs]) (by omega)
  | behind hd _ hs => exact iff_of_true (by simp [hs]) hd

/-- The magnitude that a text tells after its first character. -/
theorem Tells.exists_digits (h : Tells s d) (hd : d ≠ 0) :
    ∃ sign digits, s.toList = sign :: '0' :: 'x' :: digits ∧ Numeral.Digits 16 digits d.natAbs := by
  cases h with
  | nothing => exact absurd rfl hd
  | ahead _ hdigits hs => exact ⟨_, _, hs, hdigits⟩
  | behind _ hdigits hs => exact ⟨_, _, hs, hdigits⟩

/-- A text tells one distance. -/
theorem Tells.unique (hd : Tells s d) (he : Tells s e) : d = e := by
  have hzero : d = 0 ↔ e = 0 := hd.eq_empty_iff.symm.trans he.eq_empty_iff
  have hneg : d < 0 ↔ e < 0 := hd.head?_eq_minus_iff.symm.trans he.head?_eq_minus_iff
  by_cases h : d = 0
  · rw [h, hzero.1 h]
  · obtain ⟨sign, digits, hs, hdigits⟩ := hd.exists_digits h
    obtain ⟨sign', digits', hs', hdigits'⟩ := he.exists_digits (mt hzero.2 h)
    rw [hs] at hs'
    simp only [List.cons.injEq, true_and] at hs'
    obtain ⟨-, rfl⟩ := hs'
    have habs : d.natAbs = e.natAbs :=
      (Numeral.Number.bare hdigits).unique (by decide) (by decide) (.bare hdigits')
    omega

/-! ## Texts of accesses -/

/-- The text up to the name, which tells the operand. -/
def opening : Option UInt32 → String
  | some n => "<operand " ++ Numeral.decimalNat n.toNat ++ " ref to "
  | none => "<ref to "

theorem text_eq (u : StackUse) :
    u.text = opening u.operand ++ u.name ++ u.distanceText ++ ">" := by
  rw [← String.toList_inj]
  unfold text opening
  cases u.operand <;> simp

/-- What is shown depends on the distance alone. -/
theorem distanceText_eq (u : StackUse) : u.distanceText =
    if u.distance = 0 then "" else if u.distance < 0 then Numeral.signedHex u.distance
    else "+" ++ Numeral.signedHex u.distance := rfl

/-- The sign of a negative distance comes with its digits, that of a positive one is put before
them. -/
theorem tells_distanceText (u : StackUse) : Tells u.distanceText u.distance := by
  have hdigits := Numeral.digits_toDigits (by decide : 1 < 16) (by decide) u.distance.natAbs
  rw [distanceText_eq]
  split
  · next hzero =>
    rw [hzero]
    exact .nothing
  · next hne =>
    split
    · next hneg =>
      refine .behind hneg hdigits ?_
      rw [Numeral.toList_signedHex, if_pos hneg, Numeral.toList_hex]
    · next hnonneg =>
      refine .ahead (by omega) hdigits ?_
      rw [String.toList_append, Numeral.toList_signedHex, if_neg hnonneg, Numeral.toList_hex]
      rfl

theorem text_eq_iff (hoperand : u.operand = w.operand) (hname : u.name = w.name) :
    u.text = w.text ↔ u.distance = w.distance := by
  rw [text_eq, text_eq, hoperand, hname, String.append_left_inj, String.append_right_inj]
  constructor
  · intro h
    have hu := u.tells_distanceText
    rw [h] at hu
    exact hu.unique w.tells_distanceText
  · intro h
    rw [distanceText_eq, distanceText_eq, h]

/-- After the name of the variable stands the exact distance of the access from it: nothing exactly
if there is none, and otherwise a sign, which is a minus exactly if the access lies below the
variable, and digits of the magnitude, which is below `2 ^ 64`. It is what the subtraction in words
of 128 bits gives. For one operand and one name, the texts are the same exactly if the distances
are. -/
theorem text_tells_distance (u : StackUse) :
    (∃ shown, u.text = opening u.operand ++ u.name ++ shown ++ ">" ∧
      Tells shown u.distance ∧
      (shown = "" ↔ u.offset = u.var.location.storage) ∧
      (shown.toList.head? = some '-' ↔ u.offset.toInt < u.var.location.storage.toInt)) ∧
    u.distance.natAbs < unsignedLimit ∧
    (∃ wide,
      Wide.sub (Wide.ofInt u.offset.toInt) (Wide.ofInt u.var.location.storage.toInt) = .ok wide ∧
        wide.toInt = u.distance) ∧
    ∀ w : StackUse, u.operand = w.operand → u.name = w.name →
      (u.text = w.text ↔ u.distance = w.distance) := by
  have htells := u.tells_distanceText
  refine ⟨⟨u.distanceText, u.text_eq, htells, ?_, ?_⟩, u.natAbs_distance_lt, u.sub_wide,
    fun w => text_eq_iff⟩
  · exact htells.eq_empty_iff.trans distance_eq_zero_iff
  · exact htells.head?_eq_minus_iff.trans distance_neg_iff

/-- The greatest distance that there is, and two accesses equally far from different variables. -/
theorem text_tells_distance_greatest :
    (∃ shown, (build 0 .bool "lo" (.ofLocation none ⟨.stack, 0, Int64.maxValue⟩)
        Int64.minValue 4).text = "<operand 0 ref to lo" ++ shown ++ ">" ∧
      Tells shown (-(unsignedLimit - 1))) ∧
    (build noOperand .bool "hi" (.ofLocation none ⟨.stack, 0, -1⟩) Int64.maxValue 4).text =
      (build noOperand .bool "hi" (.ofLocation none ⟨.stack, 0, Int64.minValue⟩) 0 4).text := by
  constructor
  · obtain ⟨⟨shown, htext, htells, -⟩, -⟩ := text_tells_distance
      (build 0 .bool "lo" (.ofLocation none ⟨.stack, 0, Int64.maxValue⟩) Int64.minValue 4)
    exact ⟨shown, htext, htells⟩
  · obtain ⟨-, -, -, hsame⟩ := text_tells_distance
      (build noOperand .bool "hi" (.ofLocation none ⟨.stack, 0, -1⟩) Int64.maxValue 4)
    exact (hsame _ rfl rfl).2 (by decide)

end ValueLattice.StackUse
