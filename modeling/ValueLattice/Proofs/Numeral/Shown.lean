/-
Shown numbers can be entered again. The digits that a number is written with are a run of digits of
that number, also with zeros in front of them. So the hexadecimal and the decimal text of a word,
its text of sixteen digits and the bit pattern of a signed word are all literals of the word, and
the readers accept every literal. Two numbers within the limits are never shown alike.
-/
import ValueLattice.Proofs.Numeral.Operand

namespace ValueLattice.Numeral

variable {radix n d : Nat} {c : Char} {cs : List Char} {s : String} {v : Int64} {x : Int}

/-! ## Written digits -/

/-- The digits of a number are a run of digits with its value. -/
theorem digits_toDigits (hradix : 1 < radix) (h16 : radix ≤ 16) (n : Nat) :
    Digits radix (Nat.toDigits radix n) n := by
  obtain ⟨ds, hds, hlt, hvalue⟩ := exists_toDigits_eq_map hradix n
  rw [digits_iff h16]
  refine ⟨Nat.toDigits_ne_nil, ds, ?_, hvalue⟩
  rw [hds, mapM_map_digitChar h16 hlt]

/-- A zero in front of digits does not change their value. -/
theorem Digits.cons_zero (hradix : 0 < radix) (h : Digits radix cs n) :
    Digits radix ('0' :: cs) n := by
  induction h with
  | first hd =>
    have hzero : Digits radix ['0'] 0 := .first ⟨hradix, .inl rfl⟩
    simpa using hzero.next hd
  | next _ hd ih => exact ih.next hd

theorem Digits.replicate_zero_append (hradix : 0 < radix) (h : Digits radix cs n) (k : Nat) :
    Digits radix (List.replicate k '0' ++ cs) n := by
  induction k with
  | zero => exact h
  | succ k ih => exact ih.cons_zero hradix

/-! ## Literals without blanks -/

theorem IsDigit.not_blank (h16 : radix ≤ 16) (h : IsDigit radix c d) : Text.isBlank c = false := by
  have hall : ∀ d < 16, Text.isBlank (Nat.digitChar d) = false ∧
      Text.isBlank (Nat.digitChar d).toUpper = false := by decide
  obtain ⟨hlower, hupper⟩ := hall d (Nat.lt_of_lt_of_le h.1 h16)
  rcases h.2 with rfl | rfl
  · exact hlower
  · exact hupper

theorem Digits.not_blank (h16 : radix ≤ 16) (h : Digits radix cs n) :
    ∀ c ∈ cs, Text.isBlank c = false := by
  induction h with
  | first hd => simpa using hd.not_blank h16
  | next _ hd ih =>
    intro c hc
    rcases List.mem_append.1 hc with hc | hc
    · exact ih c hc
    · rw [List.mem_singleton.1 hc]; exact hd.not_blank h16

theorem Number.not_blank (h16 : radix ≤ 16) (h : Number radix cs n) :
    ∀ c ∈ cs, Text.isBlank c = false := by
  cases h with
  | bare h => exact h.not_blank h16
  | plus h => exact List.forall_mem_cons.2 ⟨rfl, h.not_blank h16⟩

theorem UnsignedLiteral.not_blank (h : UnsignedLiteral cs n) :
    ∀ c ∈ cs, Text.isBlank c = false := by
  -- what stands before the digits of a hexadecimal literal is its mark
  have marked {m : Char} {digits : List Char} (hm : Text.isBlank m = false)
      (hn : Number 16 digits n) : ∀ c ∈ '0' :: m :: digits, Text.isBlank c = false :=
    List.forall_mem_cons.2 ⟨rfl, List.forall_mem_cons.2 ⟨hm, hn.not_blank (by decide)⟩⟩
  cases h with
  | hex h =>
    cases h with
    | lower h => exact marked rfl h
    | upper h => exact marked rfl h
  | decimal h => exact h.not_blank (by decide)

/-! ## Reading literals -/

theorem readUnsigned_of_literal {u : UInt64} (h : UnsignedLiteral s.toList u.toNat) :
    readUnsigned s = .ok u := by
  unfold readUnsigned
  rwa [readUnsignedChars_eq_ok_iff, Text.trim_of_forall h.not_blank]

theorem readInteger_of_literal (hbare : ∀ c ∈ s.toList, Text.isBlank c = false)
    (h : SignedLiteral s.toList v) : readInteger s = .ok v := by
  unfold readInteger
  rwa [readIntegerChars_eq_ok_iff, Text.trim_of_forall hbare]

/-- A bit pattern is read as the signed word that has it. -/
theorem readInteger_of_hex (h : HexLiteral s.toList v.toUInt64.toNat) : readInteger s = .ok v := by
  obtain ⟨digits, hmark⟩ := h.marked
  refine readInteger_of_literal (UnsignedLiteral.hex h).not_blank ?_
  exact (signedLiteral_of_marked hmark).2 ⟨v.toUInt64, h, v.toInt64_toUInt64.symm⟩

theorem readInteger_of_number (h : Number 10 s.toList n) (hv : v.toInt = n) :
    readInteger s = .ok v := by
  have hlt := v.toInt_lt
  refine readInteger_of_literal (h.not_blank (by decide)) (.decimal h ?_ hv)
  unfold signedLimit
  omega

/-- A magnitude after a minus sign is read as the negative word; the greatest magnitude, which is
no signed word itself, is that of the least word. -/
theorem readInteger_of_minus (h : UnsignedLiteral cs n) (hs : s.toList = '-' :: cs)
    (hv : v.toInt = -n) : readInteger s = .ok v := by
  have hle := v.le_toInt
  have hbare : ∀ c ∈ s.toList, Text.isBlank c = false := by
    rw [hs]
    exact List.forall_mem_cons.2 ⟨rfl, h.not_blank⟩
  refine readInteger_of_literal hbare ?_
  rw [hs, signedLiteral_minus_iff, Text.trim_of_forall h.not_blank]
  refine ⟨n, h, ?_, hv⟩
  unfold signedLimit
  omega

/-! ## Texts of numbers -/

theorem hexLiteral_hex (n : Nat) : HexLiteral (hex n).toList n := by
  rw [toList_hex]
  exact .lower (.bare (digits_toDigits (by decide) (by decide) n))

theorem hexLiteral_hexWide (n : Nat) : HexLiteral (hexWide n).toList n := by
  have hdigits := (digits_toDigits (by decide : 1 < 16) (by decide) n).replicate_zero_append
    (by decide) (16 - (Nat.toDigits 16 n).length)
  simpa [hexWide] using HexLiteral.lower (.bare hdigits)

theorem number_decimalNat (n : Nat) : Number 10 (decimalNat n).toList n := by
  rw [toList_decimalNat]
  exact .bare (digits_toDigits (by decide) (by decide) n)

theorem readInteger_signedHex (v : Int64) : readInteger (signedHex v.toInt) = .ok v :=
  readIntegerChars_signedHex v

theorem readInteger_decimal (v : Int64) : readInteger (decimal v.toInt) = .ok v := by
  have hnumber := number_decimalNat v.toInt.natAbs
  unfold decimal
  split
  · next hneg =>
    have hsign : ("-" ++ decimalNat v.toInt.natAbs).toList =
        '-' :: (decimalNat v.toInt.natAbs).toList := by simp
    exact readInteger_of_minus (.decimal hnumber) hsign (by omega)
  · next hnonneg => exact readInteger_of_number hnumber (by omega)

theorem readInteger_bitsHex (v : Int64) : readInteger (bitsHex v) = .ok v :=
  readInteger_of_hex (hexLiteral_hex _)

/-- A number that is a signed or an unsigned word is read back as an operand. -/
theorem readOperand_signedHex (hlow : -signedLimit ≤ x) (hhigh : x < unsignedLimit) :
    readOperand (signedHex x) = .ok x := by
  unfold signedLimit at hlow
  by_cases hneg : x < 0
  · have hword : (Int64.ofInt x).toInt = x :=
      Int64.toInt_ofInt_of_le (by simpa using hlow) (by omega)
    have hread := readInteger_signedHex (Int64.ofInt x)
    rw [hword] at hread
    have hsign : Text.trim (signedHex x).toList = '-' :: (hex x.natAbs).toList := by
      rw [Text.trim_of_forall (isBlank_signedHex x), toList_signedHex, if_pos hneg]
    unfold readOperand
    rw [readOperandChars_of_minus hsign]
    show (readInteger (signedHex x)).map Int64.toInt = .ok x
    rw [hread]
    exact congrArg Except.ok hword
  · have hlit : OperandLiteral (hex x.natAbs).toList x.natAbs :=
      .unsigned (.hex (hexLiteral_hex _)) (by omega)
    unfold readOperand signedHex
    rw [if_neg hneg, readOperandChars_eq_ok_iff, Text.trim_of_forall (isBlank_hex _)]
    rwa [Int.natAbs_of_nonneg (Int.not_lt.1 hneg)] at hlit

/-- Every text in which a word is shown is read as that word: signed words from hexadecimal and
decimal text with a sign and from their bit patterns, unsigned words from hexadecimal text with and
without zeros in front and from decimal text, and operands from hexadecimal text. So two numbers
that are shown alike are the same. -/
theorem read_shown :
    (∀ v : Int64, readInteger (signedHex v.toInt) = .ok v ∧
      readInteger (decimal v.toInt) = .ok v ∧ readInteger (bitsHex v) = .ok v) ∧
    (∀ u : UInt64, readUnsigned (hex u.toNat) = .ok u ∧ readUnsigned (hexWide u.toNat) = .ok u ∧
      readUnsigned (decimalNat u.toNat) = .ok u) ∧
    (∀ x : Int, -signedLimit ≤ x → x < unsignedLimit → readOperand (signedHex x) = .ok x) ∧
    (∀ v w : Int64, signedHex v.toInt = signedHex w.toInt → v = w) ∧
    ∀ x y : Int, -signedLimit ≤ x → x < unsignedLimit → -signedLimit ≤ y → y < unsignedLimit →
      signedHex x = signedHex y → x = y := by
  refine ⟨fun v => ⟨readInteger_signedHex v, readInteger_decimal v, readInteger_bitsHex v⟩,
    fun u => ⟨?_, ?_, ?_⟩, fun x => readOperand_signedHex, fun v w h => ?_,
    fun x y hx hx' hy hy' h => ?_⟩
  · exact readUnsigned_of_literal (.hex (hexLiteral_hex _))
  · exact readUnsigned_of_literal (.hex (hexLiteral_hexWide _))
  · exact readUnsigned_of_literal (.decimal (number_decimalNat _))
  · have hread := readInteger_signedHex v
    rw [h, readInteger_signedHex w] at hread
    exact (Except.ok.inj hread).symm
  · have hread := readOperand_signedHex hx hx'
    rw [h, readOperand_signedHex hy hy'] at hread
    exact (Except.ok.inj hread).symm

/-- The least signed word in its three texts, a word with zeros in front, and the two ends of the
operands. -/
theorem read_shown_extremes :
    (readInteger "-0x8000000000000000" = .ok Int64.minValue ∧
      readInteger "-9223372036854775808" = .ok Int64.minValue ∧
      readInteger "0x8000000000000000" = .ok Int64.minValue) ∧
    readUnsigned "0x00000000000000ff" = .ok 255 ∧
    readOperand "-0x8000000000000000" = .ok (-signedLimit) ∧
    readOperand "0xffffffffffffffff" = .ok (unsignedLimit - 1) := by
  obtain ⟨hsigned, hunsigned, hoperand, -⟩ := read_shown
  have hleast : signedHex (-signedLimit) = "-0x8000000000000000" := by decide
  have hgreatest : signedHex (unsignedLimit - 1) = "0xffffffffffffffff" := by decide
  refine ⟨hsigned Int64.minValue, (hunsigned 255).2.1, ?_, ?_⟩
  · rw [← hleast]
    exact hoperand (-signedLimit) (by decide) (by decide)
  · rw [← hgreatest]
    exact hoperand (unsignedLimit - 1) (by decide) (by decide)

end ValueLattice.Numeral
