/-
Operands and signed words. Every signed literal is an operand of the same number modulo `2 ^ 64`, and
of the same number outright unless it is a bit pattern with the sign bit set. The operands that are
no signed literals are the decimal numbers from `2 ^ 63` up to `2 ^ 64`.
-/
import Mathlib.Data.Int.ModEq
import ValueLattice.Proofs.Numeral.Literal

namespace ValueLattice.Numeral

variable {cs text : List Char} {m : Nat} {v : Int64} {x : Int}

/-! ## Operands -/

theorem UnsignedLiteral.ne_minus (h : UnsignedLiteral cs m) (rest : List Char) :
    cs ≠ '-' :: rest := by
  cases h with
  | hex h => cases h <;> simp
  | decimal h => exact h.ne_minus (by decide) rest

theorem operandLiteral_minus_iff {rest : List Char} :
    OperandLiteral ('-' :: rest) x ↔ ∃ v, SignedLiteral ('-' :: rest) v ∧ v.toInt = x := by
  constructor
  · intro h
    cases h with
    | minus h => exact ⟨_, h, rfl⟩
    | unsigned h => exact absurd rfl (h.ne_minus rest)
  · rintro ⟨v, h, rfl⟩
    exact .minus h

theorem operandLiteral_of_plain (hsign : ∀ rest, cs ≠ '-' :: rest) :
    OperandLiteral cs x ↔ ∃ w : UInt64, UnsignedLiteral cs w.toNat ∧ (w.toNat : Int) = x := by
  constructor
  · intro h
    cases h with
    | minus => exact absurd rfl (hsign _)
    | @unsigned _ m h hm =>
      have hword : (UInt64.ofNat m).toNat = m := UInt64.toNat_ofNat_of_lt' hm
      exact ⟨UInt64.ofNat m, by rwa [hword], by rw [hword]⟩
  · rintro ⟨w, h, rfl⟩
    exact .unsigned h w.toNat_lt

/-- An operand is read exactly from its literals. -/
theorem readOperandChars_eq_ok_iff :
    readOperandChars text = .ok x ↔ OperandLiteral (Text.trim text) x := by
  by_cases hsign : ∃ rest, Text.trim text = '-' :: rest
  · obtain ⟨rest, hsign⟩ := hsign
    rw [readOperandChars_of_minus hsign, hsign, operandLiteral_minus_iff]
    simp only [← hsign, ← readIntegerChars_eq_ok_iff]
    cases readIntegerChars text <;> simp [Except.map]
  · rw [not_exists] at hsign
    rw [readOperandChars_of_plain hsign, operandLiteral_of_plain hsign]
    simp only [← readUnsignedChars_eq_ok_iff]
    cases readUnsignedChars text <;> simp [Except.map]

/-! ## Signed literals as operands -/

theorem Number.not_hex (h : Number 10 cs m) (n : Nat) : ¬ HexLiteral cs n :=
  not_hexLiteral_of_not_marked h.not_marked

/-- A signed literal is an operand of a number that differs by `2 ^ 64` if the sign bit of a bit
pattern is set, and not at all otherwise. -/
theorem SignedLiteral.operand (h : SignedLiteral cs v) : ∃ x, OperandLiteral cs x ∧
    ((x = v.toInt ∧ ∀ m, HexLiteral cs m → m < signedLimit) ∨
      ∃ m, HexLiteral cs m ∧ signedLimit ≤ m ∧ m < unsignedLimit ∧ x = m ∧
        v.toInt = m - unsignedLimit) := by
  cases h with
  | minus hbody hlit hm hv =>
    exact ⟨v.toInt, .minus (.minus hbody hlit hm hv), .inl ⟨rfl, fun m hhex => by cases hhex⟩⟩
  | @hexLow _ m _ hlit hm hv =>
    refine ⟨m, .unsigned (.hex hlit) (Nat.lt_trans hm (by decide)), .inl ⟨hv.symm, ?_⟩⟩
    intro n hn
    rwa [hn.unique hlit]
  | @hexHigh _ m _ hlit hm hlt hv =>
    exact ⟨m, .unsigned (.hex hlit) hlt, .inr ⟨m, hlit, hm, hlt, rfl, hv⟩⟩
  | @decimal _ m _ hn hm hv =>
    refine ⟨m, .unsigned (.decimal hn) (Nat.lt_trans hm (by decide)), .inl ⟨hv.symm, ?_⟩⟩
    exact fun n hhex => absurd hhex (hn.not_hex n)

/-! ## Bit patterns with the sign bit set -/

/-- Whether a text is an unsigned hexadecimal literal with the sign bit of a word set. -/
def HighHex (text : List Char) : Prop :=
  (hexMarked? (Text.trim text)).isSome ∧
    ∃ m, readUnsignedChars text = .ok m ∧ signedLimit ≤ m.toNat

instance (text : List Char) : Decidable (HighHex text) :=
  match h : readUnsignedChars text with
  | .ok m => decidable_of_iff ((hexMarked? (Text.trim text)).isSome ∧ signedLimit ≤ m.toNat)
      (by simp [HighHex, h])
  | .error _ => isFalse (by simp [HighHex, h])

theorem highHex_iff : HighHex text ↔
    ∃ m, HexLiteral (Text.trim text) m ∧ signedLimit ≤ m ∧ m < unsignedLimit := by
  constructor
  · rintro ⟨hmark, w, hread, hge⟩
    obtain ⟨digits, hmark⟩ := Option.isSome_iff_exists.1 hmark
    have hlit := (unsignedLiteral_of_marked hmark).1 (readUnsignedChars_eq_ok_iff.1 hread)
    exact ⟨w.toNat, (hexLiteral_of_marked hmark).2 hlit, hge, w.toNat_lt⟩
  · rintro ⟨m, hlit, hge, hlt⟩
    obtain ⟨digits, hmark⟩ := hlit.marked
    refine ⟨by rw [hmark]; rfl, UInt64.ofNat m, readUnsignedChars_of_literal (.hex hlit) hlt, ?_⟩
    rwa [UInt64.toNat_ofNat_of_lt' hlt]

/-- A text that is read as a signed word is read as an operand too. The operand is the same number
unless the text is hexadecimal with the sign bit set; then the operand is the unsigned one. -/
theorem readOperandChars_of_readIntegerChars (h : readIntegerChars text = .ok v) :
    ∃ x, readOperandChars text = .ok x ∧
      (¬ HighHex text ∧ x = v.toInt ∨
        HighHex text ∧ signedLimit ≤ x ∧ x = v.toInt + unsignedLimit) := by
  obtain ⟨x, hop, hcases⟩ := (readIntegerChars_eq_ok_iff.1 h).operand
  refine ⟨x, readOperandChars_eq_ok_iff.2 hop, ?_⟩
  rw [highHex_iff]
  rcases hcases with ⟨rfl, hlow⟩ | ⟨m, hhex, hge, hlt, rfl, hv⟩
  · exact .inl ⟨fun ⟨m, hhex, hge, _⟩ => absurd (hlow m hhex) (Nat.not_lt.2 hge), rfl⟩
  · exact .inr ⟨⟨m, hhex, hge, hlt⟩, by omega, by omega⟩

/-! ## Operands that are no signed literals -/

theorem HexLiteral.signed (h : HexLiteral cs m) (hm : m < unsignedLimit) :
    ∃ v, SignedLiteral cs v := by
  obtain ⟨digits, hmark⟩ := h.marked
  have hword : (UInt64.ofNat m).toNat = m := UInt64.toNat_ofNat_of_lt' hm
  exact ⟨_, (signedLiteral_of_marked hmark).2 ⟨UInt64.ofNat m, by rwa [hword], rfl⟩⟩

theorem Number.signed_iff (h : Number 10 cs m) :
    (∃ v, SignedLiteral cs v) ↔ m < signedLimit := by
  constructor
  · rintro ⟨v, hlit⟩
    cases hlit with
    | minus => exact absurd rfl (h.ne_minus (by decide) _)
    | hexLow hhex => exact absurd hhex (h.not_hex _)
    | hexHigh hhex => exact absurd hhex (h.not_hex _)
    | decimal hn hm => rwa [h.unique (by decide) (by decide) hn]
  · intro hm
    exact ⟨Int64.ofNat m, .decimal h hm (Int64.toInt_ofNat_of_lt hm)⟩

theorem operand_unsigned_only_iff : OperandLiteral cs x ∧ (∀ v, ¬ SignedLiteral cs v) ↔
    ∃ m, Number 10 cs m ∧ signedLimit ≤ m ∧ m < unsignedLimit ∧ x = m := by
  rw [← not_exists]
  constructor
  · rintro ⟨hop, hnone⟩
    cases hop with
    | minus h => exact absurd ⟨_, h⟩ hnone
    | unsigned h hm =>
      cases h with
      | hex h => exact absurd (h.signed hm) hnone
      | decimal h => exact ⟨_, h, Nat.not_lt.1 (h.signed_iff.not.1 hnone), hm, rfl⟩
  · rintro ⟨m, hn, hge, hlt, rfl⟩
    exact ⟨.unsigned (.decimal hn) hlt, hn.signed_iff.not.2 (Nat.not_lt.2 hge)⟩

/-! ## Texts -/

/-- A text that is read as a signed word is read as an operand of the same number modulo `2 ^ 64`.
The numbers are the same unless the text is an unsigned hexadecimal literal from `2 ^ 63` on; then
the operand is its value. The texts that are read as operands only are the decimal literals from
`2 ^ 63` up to `2 ^ 64`. -/
theorem readOperand_congr_readInteger (s : String) :
    (∀ v, readInteger s = .ok v → ∃ x, readOperand s = .ok x ∧ x ≡ v.toInt [ZMOD unsignedLimit] ∧
      (∀ body m, Text.Trimmed s.toList body → HexLiteral body m → signedLimit ≤ m →
        x = m ∧ v.toInt = m - unsignedLimit) ∧
      ((∀ body m, Text.Trimmed s.toList body → HexLiteral body m → m < signedLimit) →
        x = v.toInt)) ∧
    (∀ x, (readOperand s = .ok x ∧ ∃ e, readInteger s = .error e) ↔
      ∃ body m, Text.Trimmed s.toList body ∧ Number 10 body m ∧ signedLimit ≤ m ∧
        m < unsignedLimit ∧ x = m) := by
  simp only [Text.trimmed_iff]
  constructor
  · intro v hread
    obtain ⟨x, hop, hcases⟩ := (readIntegerChars_eq_ok_iff.1 hread).operand
    refine ⟨x, readOperandChars_eq_ok_iff.2 hop, ?_⟩
    rcases hcases with ⟨rfl, hlow⟩ | ⟨m, hhex, hge, -, rfl, hv⟩
    · refine ⟨rfl, ?_, fun _ => rfl⟩
      rintro body n rfl hn hge
      exact absurd (hlow n hn) (Nat.not_lt.2 hge)
    · refine ⟨?_, ?_, fun hlow => absurd (hlow _ m rfl hhex) (Nat.not_lt.2 hge)⟩
      · rw [hv]
        exact Int.modEq_sub_modulus_iff.2 rfl
      · rintro body n rfl hn -
        rw [hn.unique hhex]
        exact ⟨rfl, hv⟩
  · intro x
    have hiff : (readOperand s = .ok x ∧ ∃ e, readInteger s = .error e) ↔
        ∃ m, Number 10 (Text.trim s.toList) m ∧ signedLimit ≤ m ∧ m < unsignedLimit ∧ x = m :=
      (and_congr readOperandChars_eq_ok_iff readIntegerChars_eq_error_iff).trans
        operand_unsigned_only_iff
    exact hiff.trans ⟨fun ⟨m, hm⟩ => ⟨_, m, rfl, hm⟩, fun ⟨_, m, hbody, hm⟩ => ⟨m, hbody ▸ hm⟩⟩

/-- The bit pattern of the greatest word, a negative number, and the greatest word in decimal. -/
theorem readOperand_congr_readInteger_greatest :
    (readInteger "0xffffffffffffffff" = .ok (-1) ∧
      readOperand "0xffffffffffffffff" = .ok 18446744073709551615) ∧
    (readInteger "- 7" = .ok (-7) ∧ readOperand "- 7" = .ok (-7)) ∧
    (readOperand "18446744073709551615" = .ok 18446744073709551615 ∧
      ∃ e, readInteger "18446744073709551615" = .error e) := by
  refine ⟨?_, ?_, ?_⟩
  · have hread : readInteger "0xffffffffffffffff" = .ok (-1) := by decide
    obtain ⟨x, hx, -, hhigh, -⟩ := (readOperand_congr_readInteger _).1 _ hread
    have hword : readUnsignedChars "0xffffffffffffffff".toList = .ok (-1) := by decide
    have hhex : HexLiteral (Text.trim "0xffffffffffffffff".toList) 18446744073709551615 :=
      (hexLiteral_of_marked rfl).2
        ((unsignedLiteral_of_marked rfl).1 (readUnsignedChars_eq_ok_iff.1 hword))
    obtain ⟨rfl, -⟩ := hhigh _ _ (Text.trimmed_trim _) hhex (by decide)
    exact ⟨hread, hx⟩
  · have hread : readInteger "- 7" = .ok (-7) := by decide
    obtain ⟨x, hx, -, -, hlow⟩ := (readOperand_congr_readInteger _).1 _ hread
    obtain rfl := hlow fun body m hbody hhex => by
      obtain rfl := Text.trim_of_trimmed hbody
      cases hhex
    exact ⟨hread, hx⟩
  · have hread : readNumber 10 unsignedLimit "18446744073709551615".toList =
      .ok 18446744073709551615 := by decide
    obtain ⟨hn, hlt⟩ := (readNumber_eq_ok_iff (by decide) (by decide) (by decide)).1 hread
    exact ((readOperand_congr_readInteger _).2 _).2
      ⟨_, _, Text.trimmed_iff.2 (by decide), hn, by decide, hlt, rfl⟩

end ValueLattice.Numeral
