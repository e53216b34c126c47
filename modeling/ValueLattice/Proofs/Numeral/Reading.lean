/-
The readers of numbers, taken apart. Digits denote one number, and they are read if that number is
below the limit. A text is read by its shape: after a minus sign, after the mark of hexadecimal
text, or as it stands.
-/
import ValueLattice.Numeral.Reading
import ValueLattice.Proofs.Text.Trimming

namespace ValueLattice

/-- A list is read item by item. -/
theorem mapM_cons_eq_some_iff {α β : Type} {f : α → Option β} {a : α} {as : List α} {bs : List β} :
    (a :: as).mapM f = some bs ↔ ∃ b, f a = some b ∧ ∃ bs', as.mapM f = some bs' ∧ b :: bs' = bs := by
  simp [List.mapM_cons, Option.bind_eq_some_iff]

theorem mapM_concat_eq_some_iff {α β : Type} {f : α → Option β} {as : List α} {a : α}
    {bs : List β} : (as ++ [a]).mapM f = some bs ↔
      ∃ bs', as.mapM f = some bs' ∧ ∃ b, f a = some b ∧ bs' ++ [b] = bs := by
  simp [List.mapM_append, Option.bind_eq_some_iff]

namespace Numeral

/-! ## Digits -/

/-- The number that digits denote after `acc`. -/
def digitsFrom (radix acc : Nat) (ds : List Nat) : Nat :=
  ds.foldl (fun acc d => acc * radix + d) acc

theorem le_digitsFrom {radix : Nat} (hradix : 0 < radix) (ds : List Nat) (acc : Nat) :
    acc ≤ digitsFrom radix acc ds := by
  induction ds generalizing acc with
  | nil => exact Nat.le_refl _
  | cons d ds ih =>
    calc acc ≤ acc * radix := Nat.le_mul_of_pos_right _ hradix
      _ ≤ acc * radix + d := Nat.le_add_right _ _
      _ ≤ digitsFrom radix acc (d :: ds) := ih _

/-- Digits are read if they are digits of the radix and their number is below the limit. -/
theorem readDigits_eq_ok_iff {radix limit acc n : Nat} {cs : List Char} (hradix : 0 < radix)
    (hacc : acc < limit) : readDigits radix limit acc cs = .ok n ↔
      ∃ ds, cs.mapM (digitValue? radix) = some ds ∧ digitsFrom radix acc ds = n ∧ n < limit := by
  induction cs generalizing acc with
  | nil =>
    simp only [readDigits, Except.ok.injEq, List.mapM_nil, Option.pure_def, Option.some.injEq,
      exists_eq_left', digitsFrom, List.foldl_nil]
    constructor
    · rintro rfl; exact ⟨rfl, hacc⟩
    · exact And.left
  | cons c cs ih =>
    rw [readDigits]
    simp only [mapM_cons_eq_some_iff]
    cases hc : digitValue? radix c with
    | none => simp
    | some d =>
      dsimp only
      split
      · next hlt =>
        rw [ih hlt]
        constructor
        · rintro ⟨ds, hds, hn⟩; exact ⟨d :: ds, ⟨d, rfl, ds, hds, rfl⟩, hn⟩
        · rintro ⟨_, ⟨_, ⟨⟩, ds, hds, rfl⟩, hn⟩; exact ⟨ds, hds, hn⟩
      · next hge =>
        -- a number that is too large on the way stays too large
        constructor
        · intro h; cases h
        · rintro ⟨_, ⟨_, ⟨⟩, ds, -, rfl⟩, rfl, hlt⟩
          exact absurd (Nat.lt_of_le_of_lt (le_digitsFrom hradix ds _) hlt) hge

/-! ## Words -/

theorem toInt_toInt64 (m : UInt64) :
    m.toInt64.toInt = if m.toNat < signedLimit then (m.toNat : Int) else m.toNat - unsignedLimit := by
  have hlt := m.toNat_lt
  have hbits : m.toInt64.toInt = (m.toNat : Int).bmod (2 ^ 64) :=
    BitVec.toInt_eq_toNat_bmod m.toBitVec
  rw [hbits, Int.bmod_def]
  unfold signedLimit unsignedLimit
  split <;> split <;> omega

/-! ## Literals -/

theorem readUnsignedChars_trim (text : List Char) :
    readUnsignedChars (Text.trim text) = readUnsignedChars text := by
  unfold readUnsignedChars
  rw [Text.trim_trim]

theorem readIntegerChars_trim (text : List Char) :
    readIntegerChars (Text.trim text) = readIntegerChars text := by
  unfold readIntegerChars
  rw [Text.trim_trim]

section Shapes

variable {text rest digits : List Char}

theorem readOperandChars_of_minus (hsign : Text.trim text = '-' :: rest) :
    readOperandChars text = (readIntegerChars text).map Int64.toInt := by
  rw [← readIntegerChars_trim]
  unfold readOperandChars
  simp only [hsign]

theorem readOperandChars_of_plain (hsign : ∀ rest, Text.trim text ≠ '-' :: rest) :
    readOperandChars text = (readUnsignedChars text).map fun v => (v.toNat : Int) := by
  rw [← readUnsignedChars_trim]
  unfold readOperandChars
  dsimp only
  split
  · next rest hminus => exact absurd hminus (hsign rest)
  · rfl

theorem readIntegerChars_of_minus (hsign : Text.trim text = '-' :: rest) : readIntegerChars text =
    match readUnsignedChars rest with
    | .error e => .error e
    | .ok m =>
      if m.toNat ≤ signedLimit then .ok (-m.toInt64)
      else .error (.outOfRange (String.ofList (Text.trim text))) := by
  unfold readIntegerChars
  cases hread : readUnsignedChars rest <;> simp only [hsign, hread]

theorem readIntegerChars_of_marked (hmark : hexMarked? (Text.trim text) = some digits) :
    readIntegerChars text = (readUnsignedChars text).map UInt64.toInt64 := by
  rw [← readUnsignedChars_trim]
  unfold readIntegerChars
  dsimp only
  split
  · next rest hminus => rw [hminus] at hmark; cases hmark
  · rw [hmark]

theorem readIntegerChars_of_plain (hsign : ∀ rest, Text.trim text ≠ '-' :: rest)
    (hmark : hexMarked? (Text.trim text) = none) : readIntegerChars text =
      match readNumber 10 signedLimit (Text.trim text) with
      | .ok n => .ok (Int64.ofNat n)
      | .error fault => .error (.decimal (String.ofList (Text.trim text)) fault) := by
  unfold readIntegerChars
  dsimp only
  split
  · next rest hminus => exact absurd hminus (hsign rest)
  · cases readNumber 10 signedLimit (Text.trim text) <;> simp only [hmark]

end Shapes

end Numeral

end ValueLattice
