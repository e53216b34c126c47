/-
Numbers read back from their texts. A number is written with the digits that denote it, so every
reader gets the number back as long as it is below the limit of the reader: unsigned words from
marked hexadecimal and from decimal text, and signed words from hexadecimal text with a sign.
-/
import ValueLattice.Proofs.Numeral.Reading

namespace ValueLattice

namespace Numeral

variable {radix limit n : Nat} {ds : List Nat}

/-! ## Written digits -/

theorem digitsFrom_append (radix acc : Nat) (ds : List Nat) (d : Nat) :
    digitsFrom radix acc (ds ++ [d]) = digitsFrom radix acc ds * radix + d := by
  simp [digitsFrom]

/-- The digits of a number denote it. -/
theorem exists_toDigits_eq_map (hradix : 1 < radix) (n : Nat) :
    ∃ ds, Nat.toDigits radix n = ds.map Nat.digitChar ∧ (∀ d ∈ ds, d < radix) ∧
      digitsFrom radix 0 ds = n := by
  induction n using Nat.strongRecOn with
  | ind n ih =>
    rw [Nat.toDigits_eq_if hradix]
    split
    · next hlt => exact ⟨[n], rfl, by simpa using hlt, by simp [digitsFrom]⟩
    · next hge =>
      -- the last digit is the remainder, and the others are those of the quotient
      have hpos : 0 < n := by omega
      obtain ⟨ds, hds, hlt, hvalue⟩ := ih (n / radix) (Nat.div_lt_self hpos hradix)
      refine ⟨ds ++ [n % radix], by rw [hds, List.map_append]; rfl, fun d hd => ?_, ?_⟩
      · rcases List.mem_append.1 hd with hd | hd
        · exact hlt d hd
        · obtain rfl := List.mem_singleton.1 hd
          exact Nat.mod_lt _ (by omega)
      · rw [digitsFrom_append, hvalue, Nat.mul_comm, Nat.div_add_mod]

/-- What holds of all digits holds of the characters that a number is written with. -/
theorem forall_toDigits {p : Char → Prop} (hradix : 1 < radix) (h16 : radix ≤ 16)
    (hp : ∀ d < 16, p (Nat.digitChar d)) : ∀ c ∈ Nat.toDigits radix n, p c := by
  obtain ⟨ds, hds, hlt, -⟩ := exists_toDigits_eq_map hradix n
  intro c hc
  rw [hds] at hc
  obtain ⟨d, hd, rfl⟩ := List.mem_map.1 hc
  exact hp d (Nat.lt_of_lt_of_le (hlt d hd) h16)

/-- A smaller radix refuses the digits from it on and values the others alike. -/
theorem digitValue?_of_lt {big d : Nat} {c : Char} (h : digitValue? big c = some d)
    (hd : d < radix) : digitValue? radix c = some d := by
  unfold digitValue? at h ⊢
  obtain ⟨v, hv, hvalue⟩ := Option.bind_eq_some_iff.1 h
  rw [Option.bind_eq_some_iff]
  split at hvalue
  · cases hvalue
    exact ⟨d, hv, if_pos hd⟩
  · cases hvalue

theorem digitValue?_digitChar (h16 : radix ≤ 16) {d : Nat} (hd : d < radix) :
    digitValue? radix d.digitChar = some d := by
  have hall : ∀ d < 16, digitValue? 16 d.digitChar = some d := by decide
  exact digitValue?_of_lt (hall d (Nat.lt_of_lt_of_le hd h16)) hd

/-- Written digits have the values that they are written for. -/
theorem mapM_map_digitChar (h16 : radix ≤ 16) (hds : ∀ d ∈ ds, d < radix) :
    (ds.map Nat.digitChar).mapM (digitValue? radix) = some ds := by
  induction ds with
  | nil => rfl
  | cons d ds ih =>
    rw [List.map_cons, mapM_cons_eq_some_iff]
    exact ⟨d, digitValue?_digitChar h16 (hds d List.mem_cons_self), ds,
      ih fun e he => hds e (List.mem_cons_of_mem _ he), rfl⟩

/-- Written digits are read as the number that they denote. -/
theorem readNumber_map_digitChar (h16 : radix ≤ 16) (hne : ds ≠ []) (hds : ∀ d ∈ ds, d < radix)
    (hlimit : digitsFrom radix 0 ds < limit) :
    readNumber radix limit (ds.map Nat.digitChar) = .ok (digitsFrom radix 0 ds) := by
  obtain ⟨d, ds, rfl⟩ := List.exists_cons_of_ne_nil hne
  have hd := hds d List.mem_cons_self
  have hread : readDigits radix limit 0 ((d :: ds).map Nat.digitChar) = .ok _ :=
    (readDigits_eq_ok_iff (by omega) (by omega)).2 ⟨d :: ds, mapM_map_digitChar h16 hds, rfl, hlimit⟩
  -- the first digit is no sign
  have hsign : d.digitChar ≠ '+' := by
    have hall : ∀ d < 16, Nat.digitChar d ≠ '+' := by decide
    exact hall d (Nat.lt_of_lt_of_le hd h16)
  rw [List.map_cons] at hread ⊢
  unfold readNumber
  split
  · next h => cases h
  · next h => exact absurd (List.cons.inj h).1 hsign
  · next h => exact absurd (List.cons.inj h).1 hsign
  · exact hread

theorem readNumber_toDigits (hradix : 1 < radix) (h16 : radix ≤ 16) (hn : n < limit) :
    readNumber radix limit (Nat.toDigits radix n) = .ok n := by
  obtain ⟨ds, hds, hlt, rfl⟩ := exists_toDigits_eq_map hradix n
  rw [hds]
  refine readNumber_map_digitChar h16 ?_ hlt hn
  rintro rfl
  exact Nat.toDigits_ne_nil hds

/-! ## Texts -/

@[simp] theorem toList_hex (n : Nat) : (hex n).toList = '0' :: 'x' :: Nat.toDigits 16 n := by
  simp [hex, hexDigits]

@[simp] theorem toList_decimalNat (n : Nat) : (decimalNat n).toList = Nat.toDigits 10 n := by
  simp [decimalNat]

theorem toList_signedHex (n : Int) : (signedHex n).toList =
    if n < 0 then '-' :: (hex n.natAbs).toList else (hex n.natAbs).toList := by
  unfold signedHex
  split <;> simp

theorem toList_decimal (n : Int) : (decimal n).toList =
    if n < 0 then '-' :: (decimalNat n.natAbs).toList else (decimalNat n.natAbs).toList := by
  unfold decimal
  split <;> simp

theorem exists_toList_decimalNat (n : Nat) :
    ∃ c cs, (decimalNat n).toList = c :: cs ∧ (digitValue? 16 c).isSome = true := by
  have hdigits : ∀ c ∈ Nat.toDigits 10 n, (digitValue? 16 c).isSome = true :=
    forall_toDigits (by decide) (by decide) (by decide)
  obtain ⟨c, cs, hcs⟩ := List.exists_cons_of_ne_nil (Nat.toDigits_ne_nil (b := 10) (n := n))
  rw [hcs] at hdigits
  exact ⟨c, cs, (toList_decimalNat n).trans hcs, hdigits c List.mem_cons_self⟩

/-- A number begins with its sign or with the mark of hexadecimal text. -/
theorem exists_toList_signedHex (n : Int) :
    ∃ cs, (signedHex n).toList = '-' :: cs ∨ (signedHex n).toList = '0' :: cs := by
  rw [toList_signedHex, toList_hex]
  split
  · exact ⟨_, .inl rfl⟩
  · exact ⟨_, .inr rfl⟩

theorem forall_hex {p : Char → Prop} (hmark : p 'x') (hp : ∀ d < 16, p (Nat.digitChar d)) :
    ∀ c ∈ (hex n).toList, p c := by
  intro c hc
  rw [toList_hex] at hc
  simp only [List.mem_cons] at hc
  rcases hc with rfl | rfl | hc
  · exact hp 0 (by decide)
  · exact hmark
  · exact forall_toDigits (by decide) (by decide) hp c hc

theorem forall_signedHex {n : Int} {p : Char → Prop} (hsign : p '-') (hmark : p 'x')
    (hp : ∀ d < 16, p (Nat.digitChar d)) : ∀ c ∈ (signedHex n).toList, p c := by
  intro c hc
  rw [toList_signedHex] at hc
  split at hc
  · rcases List.mem_cons.1 hc with rfl | hc
    · exact hsign
    · exact forall_hex hmark hp c hc
  · exact forall_hex hmark hp c hc

theorem isBlank_hex (n : Nat) : ∀ c ∈ (hex n).toList, Text.isBlank c = false :=
  forall_hex rfl (by decide)

theorem isBlank_decimalNat (n : Nat) : ∀ c ∈ (decimalNat n).toList, Text.isBlank c = false := by
  rw [toList_decimalNat]
  exact forall_toDigits (by decide) (by decide) (by decide)

theorem isBlank_signedHex (n : Int) : ∀ c ∈ (signedHex n).toList, Text.isBlank c = false :=
  forall_signedHex rfl rfl (by decide)

/-! ## Unsigned words -/

theorem readUnsignedChars_hex (hn : n < unsignedLimit) :
    readUnsignedChars (hex n).toList = .ok (UInt64.ofNat n) := by
  have hread : readNumber 16 unsignedLimit (Nat.toDigits 16 n) = .ok n :=
    readNumber_toDigits (by decide) (by decide) hn
  unfold readUnsignedChars
  rw [Text.trim_of_forall (isBlank_hex n), toList_hex]
  simp only [hexMarked?, hread]

theorem readUnsignedChars_decimalNat (hn : n < unsignedLimit) :
    readUnsignedChars (decimalNat n).toList = .ok (UInt64.ofNat n) := by
  have hread : readNumber 10 unsignedLimit (Nat.toDigits 10 n) = .ok n :=
    readNumber_toDigits (by decide) (by decide) hn
  -- the mark of hexadecimal text is no digit
  have hmark : hexMarked? (Nat.toDigits 10 n) = none := by
    have hx := forall_toDigits (n := n) (p := fun c => c ≠ 'x' ∧ c ≠ 'X') (by decide : 1 < 10)
      (by decide) (by decide)
    unfold hexMarked?
    split
    · next h => rw [h] at hx; simp at hx
    · next h => rw [h] at hx; simp at hx
    · rfl
  unfold readUnsignedChars
  rw [Text.trim_of_forall (isBlank_decimalNat n), toList_decimalNat]
  simp only [hmark, hread]

theorem readUnsignedChars_hex_toNat (v : UInt64) :
    readUnsignedChars (hex v.toNat).toList = .ok v := by
  rw [readUnsignedChars_hex v.toNat_lt, UInt64.ofNat_toNat]

/-! ## Signed words -/

/-- A signed word is read back from its hexadecimal text, also the least one, whose magnitude is
no signed word. -/
theorem readIntegerChars_signedHex (v : Int64) :
    readIntegerChars (signedHex v.toInt).toList = .ok v := by
  have hle := v.le_toInt
  have hlt := v.toInt_lt
  have hmagnitude : v.toInt.natAbs < unsignedLimit := by unfold unsignedLimit; omega
  have hread := readUnsignedChars_hex hmagnitude
  have htrim := Text.trim_of_forall (isBlank_signedHex v.toInt)
  have hword : (UInt64.ofNat v.toInt.natAbs).toInt64 = Int64.ofInt v.toInt.natAbs :=
    UInt64.toInt64_ofNat'.trans Int64.ofInt_eq_ofNat.symm
  rw [toList_signedHex] at htrim ⊢
  split
  · next hneg =>
    rw [if_pos hneg] at htrim
    have hm : (UInt64.ofNat v.toInt.natAbs).toNat ≤ signedLimit := by
      rw [UInt64.toNat_ofNat_of_lt' hmagnitude]
      unfold signedLimit
      omega
    have hvalue : -(v.toInt.natAbs : Int) = v.toInt := by omega
    rw [readIntegerChars_of_minus htrim, hread]
    dsimp only
    rw [if_pos hm, hword, ← Int64.ofInt_neg, hvalue, Int64.ofInt_toInt]
  · next hnonneg =>
    rw [if_neg hnonneg] at htrim
    have hmark : hexMarked? (Text.trim (hex v.toInt.natAbs).toList) =
        some (Nat.toDigits 16 v.toInt.natAbs) := by
      rw [htrim, toList_hex]
      rfl
    have hvalue : (v.toInt.natAbs : Int) = v.toInt := by omega
    rw [readIntegerChars_of_marked hmark, hread, Except.map, hword, hvalue, Int64.ofInt_toInt]

end Numeral

end ValueLattice
