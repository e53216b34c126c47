/-
The packing of locations, as arithmetic. An identifier is the sum of three fields: the source from
bit 62 on, thirty bits of the index from bit 32 on, and the low half of the storage. Two locations
share an identifier exactly if their fields agree, so locations that fit the fields are told apart.
Unpacking an identifier and packing it again gives it back, unless its source bits are both set:
no source has these bits, and what reads as a flag is written with one of them.
-/
import Mathlib.Algebra.Ring.Int.Defs
import Mathlib.Algebra.Ring.Nat
import ValueLattice.Location

namespace ValueLattice

namespace Source

theorem toNat_bits_le (s : Source) : s.bits.toNat ≤ 2 := by
  cases s <;> decide

theorem eq_of_toNat_bits {s t : Source} (h : s.bits.toNat = t.bits.toNat) : s = t := by
  revert h
  cases s <;> cases t <;> decide

/-- Reading two bits and writing them again changes the unused pattern only. -/
theorem toNat_bits_ofBits (b : UInt64) :
    (ofBits b).bits.toNat = if b.toNat % 4 = 3 then 2 else b.toNat % 4 := by
  have hlow : (b &&& 3).toNat = b.toNat % 4 := by
    rw [UInt64.toNat_and]
    exact Nat.and_two_pow_sub_one_eq_mod b.toNat 2
  have hstack : b &&& 3 = 0 ↔ b.toNat % 4 = 0 := by rw [← UInt64.toNat_inj, hlow]; rfl
  have hregister : b &&& 3 = 1 ↔ b.toNat % 4 = 1 := by rw [← UInt64.toNat_inj, hlow]; rfl
  unfold ofBits
  simp only [hstack, hregister]
  split
  · next h => simp [h, bits]
  · split
    · next h => simp [h, bits]
    · have hlt : b.toNat % 4 < 4 := Nat.mod_lt _ (by decide)
      have htwo : flag.bits.toNat = 2 := rfl
      split <;> omega

end Source

namespace Location

/-- The locations that an identifier has room for. -/
structure Fits (l : Location) : Prop where
  index : l.index.toNat < 2 ^ 30
  storage : -2 ^ 31 ≤ l.storage.toInt ∧ l.storage.toInt < 2 ^ 31

/-- Whether both source bits of an identifier are set, which no location's identifier has. -/
def Stray (identifier : UInt64) : Prop :=
  identifier >>> 62 = 3

instance (identifier : UInt64) : Decidable (Stray identifier) :=
  inferInstanceAs (Decidable (_ = _))

/-- The lower one of the two source bits. -/
def lowerSourceBit : UInt64 :=
  0x4000000000000000

/-! ## The fields of a location -/

/-- A field written above a smaller one. -/
theorem or_eq_add (high : Nat) {low width : Nat} (h : low < 2 ^ width) :
    high * 2 ^ width ||| low = high * 2 ^ width + low := by
  rw [← Nat.shiftLeft_eq, Nat.shiftLeft_add_eq_or_of_lt h]

theorem toNat_maskedIndex (l : Location) :
    (l.index.toUInt64 &&& indexMask).toNat = l.index.toNat % 2 ^ 30 := by
  rw [UInt64.toNat_and, UInt32.toNat_toUInt64]
  exact Nat.and_two_pow_sub_one_eq_mod l.index.toNat 30

/-- The low half of a storage, as an unsigned number. -/
theorem toNat_lowStorage (v : Int64) : (v.toInt32.toUInt32.toNat : Int) = v.toInt % 2 ^ 32 := by
  have hlt := v.toInt32.toUInt32.toNat_lt
  have hbits : v.toInt32.toInt = (v.toInt32.toUInt32.toNat : Int).bmod (2 ^ 32) :=
    BitVec.toInt_eq_toNat_bmod v.toInt32.toBitVec
  have hcut := Int64.toInt_toInt32 v
  -- both signed readings are balanced remainders, which agree with the numbers they are taken of
  have hlow := @Int.bmod_emod v.toInt32.toUInt32.toNat (2 ^ 32)
  have hwhole := @Int.bmod_emod v.toInt (2 ^ 32)
  rw [← hbits] at hlow
  rw [← hcut] at hwhole
  omega

theorem toNat_identifier (l : Location) : l.identifier.toNat =
    l.source.bits.toNat * 2 ^ 62 + l.index.toNat % 2 ^ 30 * 2 ^ 32 +
      l.storage.toInt32.toUInt32.toNat := by
  have hsource := l.source.toNat_bits_le
  have hindex := Nat.mod_lt l.index.toNat (show 0 < 2 ^ 30 by decide)
  have hstorage := l.storage.toInt32.toUInt32.toNat_lt
  unfold identifier
  rw [UInt64.toNat_or, UInt64.toNat_or, UInt64.toNat_shiftLeft, UInt64.toNat_shiftLeft,
    toNat_maskedIndex, UInt32.toNat_toUInt64]
  generalize l.source.bits.toNat = s at *
  generalize l.index.toNat % 2 ^ 30 = i at *
  generalize l.storage.toInt32.toUInt32.toNat = v at *
  -- the shifted fields stay below bit 64, and each begins above the next one
  have hs : s <<< 62 % 2 ^ 64 = s * 2 ^ 62 := by rw [Nat.shiftLeft_eq]; omega
  have hi : i <<< 32 % 2 ^ 64 = i * 2 ^ 32 := by rw [Nat.shiftLeft_eq]; omega
  have hfields : s * 2 ^ 62 + i * 2 ^ 32 = (s * 2 ^ 30 + i) * 2 ^ 32 := by
    rw [Nat.add_mul, Nat.mul_assoc, ← Nat.pow_add]
  calc s <<< 62 % 2 ^ 64 ||| i <<< 32 % 2 ^ 64 ||| v
      = (s * 2 ^ 62 + i * 2 ^ 32) ||| v := by rw [hs, hi, or_eq_add s (by omega)]
    _ = (s * 2 ^ 30 + i) * 2 ^ 32 ||| v := by rw [hfields]
    _ = s * 2 ^ 62 + i * 2 ^ 32 + v := by rw [or_eq_add _ hstorage, hfields]

/-! ## Locations with one identifier -/

theorem identifier_eq_iff {l m : Location} : l.identifier = m.identifier ↔
    l.source = m.source ∧ l.index.toNat % 2 ^ 30 = m.index.toNat % 2 ^ 30 ∧
      l.storage.toInt % 2 ^ 32 = m.storage.toInt % 2 ^ 32 := by
  have hl := toNat_lowStorage l.storage
  have hm := toNat_lowStorage m.storage
  have hllt := l.storage.toInt32.toUInt32.toNat_lt
  have hmlt := m.storage.toInt32.toUInt32.toNat_lt
  rw [← UInt64.toNat_inj, toNat_identifier, toNat_identifier]
  constructor
  · intro h
    refine ⟨Source.eq_of_toNat_bits ?_, ?_, ?_⟩ <;> omega
  · rintro ⟨hsource, hindex, hstorage⟩
    rw [hsource]
    omega

theorem eq_of_fits {l m : Location} (hl : l.Fits) (hm : m.Fits)
    (h : l.identifier = m.identifier) : l = m := by
  obtain ⟨hsource, hindex, hstorage⟩ := identifier_eq_iff.1 h
  have hli := hl.index
  have hmi := hm.index
  have hls := hl.storage
  have hms := hm.storage
  have sameIndex : l.index = m.index := UInt32.toNat_inj.1 (by omega)
  have sameStorage : l.storage = m.storage := Int64.toInt_inj.1 (by omega)
  cases l
  cases m
  simp_all

/-! ## The location of an identifier -/

theorem toNat_top (n : UInt64) : (n >>> 62).toNat = n.toNat / 2 ^ 62 := by
  rw [UInt64.toNat_shiftRight]
  exact Nat.shiftRight_eq_div_pow _ _

theorem stray_iff {n : UInt64} : Stray n ↔ n.toNat / 2 ^ 62 = 3 := by
  unfold Stray
  rw [← UInt64.toNat_inj, toNat_top]
  rfl

theorem toNat_source_ofIdentifier (n : UInt64) :
    (ofIdentifier n).source.bits.toNat = if Stray n then 2 else n.toNat / 2 ^ 62 := by
  have hlt := n.toNat_lt
  have htop : n.toNat / 2 ^ 62 % 4 = n.toNat / 2 ^ 62 := by omega
  unfold ofIdentifier
  simp only [Source.toNat_bits_ofBits, toNat_top, htop, stray_iff]

theorem toNat_index_ofIdentifier (n : UInt64) :
    (ofIdentifier n).index.toNat = n.toNat / 2 ^ 32 % 2 ^ 30 := by
  have hmask : ((n >>> 32) &&& indexMask).toNat = n.toNat / 2 ^ 32 % 2 ^ 30 := by
    rw [UInt64.toNat_and, UInt64.toNat_shiftRight]
    exact (Nat.and_two_pow_sub_one_eq_mod _ 30).trans
      (congrArg (· % 2 ^ 30) (Nat.shiftRight_eq_div_pow _ _))
  unfold ofIdentifier
  rw [UInt64.toNat_toUInt32, hmask]
  omega

theorem lowStorage_ofIdentifier (n : UInt64) :
    (ofIdentifier n).storage.toInt32.toUInt32.toNat = n.toNat % 2 ^ 32 := by
  unfold ofIdentifier
  simp

/-- An identifier that is unpacked and packed again loses at most its lower source bit. -/
theorem toNat_eq_identifier_ofIdentifier (n : UInt64) : n.toNat =
    (ofIdentifier n).identifier.toNat + if Stray n then 2 ^ 62 else 0 := by
  rw [toNat_identifier, toNat_source_ofIdentifier, toNat_index_ofIdentifier,
    lowStorage_ofIdentifier]
  by_cases hstray : Stray n
  · have htop := stray_iff.1 hstray
    rw [if_pos hstray, if_pos hstray]
    omega
  · rw [if_neg hstray, if_neg hstray]
    omega

/-! ## Packing and unpacking -/

variable {l : Location} {n : UInt64}

/-- What an identifier stands for fits into an identifier. -/
theorem fits_ofIdentifier (n : UInt64) : (ofIdentifier n).Fits := by
  constructor
  · rw [toNat_index_ofIdentifier]
    exact Nat.mod_lt _ (by decide)
  · have hwiden : (ofIdentifier n).storage.toInt = n.toUInt32.toInt32.toInt :=
      Int32.toInt_toInt64 _
    rw [hwiden]
    exact ⟨Int32.le_toInt _, Int32.toInt_lt _⟩

theorem not_stray_identifier (l : Location) : ¬ Stray l.identifier := by
  have hsource := l.source.toNat_bits_le
  have hstorage := l.storage.toInt32.toUInt32.toNat_lt
  rw [stray_iff, toNat_identifier]
  omega

theorem identifier_ofIdentifier (h : ¬ Stray n) : (ofIdentifier n).identifier = n := by
  have hn := toNat_eq_identifier_ofIdentifier n
  rw [if_neg h] at hn
  exact UInt64.toNat_inj.1 hn.symm

/-- Bit 62 goes out where both source bits are set. -/
theorem toNat_and_not_lowerSourceBit (h : Stray n) :
    (n &&& ~~~lowerSourceBit).toNat + 2 ^ 62 = n.toNat := by
  have htop := stray_iff.1 h
  have hmask : (~~~lowerSourceBit : UInt64).toNat = 2 * 2 ^ 62 + (2 ^ 62 - 1) := by decide
  -- the mask keeps the upper one of the two source bits and all bits below them
  have hhigh : (n &&& ~~~lowerSourceBit).toNat / 2 ^ 62 = 2 := by
    rw [UInt64.toNat_and, Nat.and_div_two_pow, htop, hmask]
    decide
  have hlow : (n &&& ~~~lowerSourceBit).toNat % 2 ^ 62 = n.toNat % 2 ^ 62 := by
    rw [UInt64.toNat_and, Nat.and_mod_two_pow, hmask, Nat.mul_add_mod_self_right,
      Nat.mod_eq_of_lt (by decide : 2 ^ 62 - 1 < 2 ^ 62), Nat.and_two_pow_sub_one_eq_mod,
      Nat.mod_mod]
  omega

theorem identifier_ofIdentifier_of_stray (h : Stray n) :
    (ofIdentifier n).identifier = n &&& ~~~lowerSourceBit := by
  have hn := toNat_eq_identifier_ofIdentifier n
  have hcleared := toNat_and_not_lowerSourceBit h
  rw [if_pos h] at hn
  exact UInt64.toNat_inj.1 (by omega)

/-- What a location and the location that its identifier stands for have in common. -/
theorem ofIdentifier_identifier (l : Location) :
    (ofIdentifier l.identifier).source = l.source ∧
    (ofIdentifier l.identifier).index.toNat = l.index.toNat % 2 ^ 30 ∧
    (ofIdentifier l.identifier).storage.toInt = l.storage.toInt.bmod (2 ^ 32) := by
  obtain ⟨hindex, hstorage⟩ := fits_ofIdentifier l.identifier
  obtain ⟨hsource, hi, hs⟩ :=
    identifier_eq_iff.1 (identifier_ofIdentifier (not_stray_identifier l))
  refine ⟨hsource, by omega, ?_⟩
  rw [Int.bmod_def]
  omega

theorem ofIdentifier_identifier_eq_iff : ofIdentifier l.identifier = l ↔ l.Fits := by
  constructor
  · intro h
    rw [← h]
    exact fits_ofIdentifier _
  · intro h
    exact eq_of_fits (fits_ofIdentifier _) h (identifier_ofIdentifier (not_stray_identifier l))

/-- Unpacking the identifier of a location gives it back with the index cut to thirty bits and the
storage to its signed low half, so exactly the locations that fit come back as they were. Locations
share an identifier exactly if they agree in these bits. Packing what an identifier stands for
gives it back, or without its bit 62 where both source bits are set. -/
theorem packing_exact :
    (∀ l : Location,
      (ofIdentifier l.identifier).source = l.source ∧
      (ofIdentifier l.identifier).index.toNat = l.index.toNat % 2 ^ 30 ∧
      (ofIdentifier l.identifier).storage.toInt = l.storage.toInt.bmod (2 ^ 32) ∧
      (ofIdentifier l.identifier = l ↔
        l.index.toNat < 2 ^ 30 ∧ -2 ^ 31 ≤ l.storage.toInt ∧ l.storage.toInt < 2 ^ 31)) ∧
    (∀ l m : Location, l.identifier = m.identifier ↔
      l.source = m.source ∧ l.index.toNat % 2 ^ 30 = m.index.toNat % 2 ^ 30 ∧
        l.storage.toInt % 2 ^ 32 = m.storage.toInt % 2 ^ 32) ∧
    ∀ n : UInt64, (ofIdentifier n).identifier =
      if n >>> 62 = 3 then n &&& ~~~lowerSourceBit else n := by
  refine ⟨fun l => ?_, fun l m => identifier_eq_iff, fun n => ?_⟩
  · obtain ⟨hsource, hindex, hstorage⟩ := ofIdentifier_identifier l
    refine ⟨hsource, hindex, hstorage, ofIdentifier_identifier_eq_iff.trans ?_⟩
    exact ⟨fun h => ⟨h.index, h.storage⟩, fun h => ⟨h.1, h.2⟩⟩
  · split
    · next h => exact identifier_ofIdentifier_of_stray h
    · next h => exact identifier_ofIdentifier h

end Location

end ValueLattice
