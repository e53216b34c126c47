/-
The readers of integers accept exactly the grammar of literals, with the value that it gives them. A
literal is refused only if its value is beyond the limits of words; the least signed word can be
written after a minus sign, and the number below it is out of range.
-/
import Mathlib.Data.List.Induction
import ValueLattice.Numeral.Grammar
import ValueLattice.Proofs.Numeral.Printed

namespace ValueLattice.Numeral

variable {radix limit n : Nat} {cs digits rest text : List Char}

/-! ## Digits -/

theorem digitValue?_toUpper (h16 : radix ≤ 16) {d : Nat} (hd : d < radix) :
    digitValue? radix d.digitChar.toUpper = some d := by
  have hall : ∀ d < 16, digitValue? 16 d.digitChar.toUpper = some d := by decide
  exact digitValue?_of_lt (hall d (Nat.lt_of_lt_of_le hd h16)) hd

theorem digitValue?_eq_some_iff (h16 : radix ≤ 16) {c : Char} {d : Nat} :
    digitValue? radix c = some d ↔ IsDigit radix c d := by
  constructor
  · intro h
    unfold digitValue? at h
    obtain ⟨v, hv, hvalue⟩ := Option.bind_eq_some_iff.1 h
    split at hvalue
    · next hlt =>
      cases hvalue
      refine ⟨hlt, ?_⟩
      -- the three blocks of digits start at the code points 48, 97 and 65
      have hdecimal : ∀ v < 10, (Nat.digitChar v).toNat = v + 48 := by decide
      have hlower : ∀ v < 16, 10 ≤ v → (Nat.digitChar v).toNat = v + 87 := by decide
      have hupper : ∀ v < 16, 10 ≤ v → (Nat.digitChar v).toUpper.toNat = v + 55 := by decide
      split at hv
      · cases hv
        exact .inl (Char.toNat_inj.1 (by rw [hdecimal _ (by omega)]; omega))
      · split at hv
        · cases hv
          exact .inl (Char.toNat_inj.1 (by rw [hlower _ (by omega) (by omega)]; omega))
        · split at hv
          · cases hv
            exact .inr (Char.toNat_inj.1 (by rw [hupper _ (by omega) (by omega)]; omega))
          · cases hv
    · cases hvalue
  · rintro ⟨hlt, rfl | rfl⟩
    · exact digitValue?_digitChar h16 hlt
    · exact digitValue?_toUpper h16 hlt

/-- A run of digits denotes the number that its values denote. -/
theorem digits_iff (h16 : radix ≤ 16) : Digits radix cs n ↔
    cs ≠ [] ∧ ∃ ds, cs.mapM (digitValue? radix) = some ds ∧ digitsFrom radix 0 ds = n := by
  constructor
  · intro h
    induction h with
    | first hc =>
      have hvalue := (digitValue?_eq_some_iff h16).2 hc
      refine ⟨by simp, [_], mapM_cons_eq_some_iff.2 ⟨_, hvalue, [], rfl, rfl⟩, ?_⟩
      simp [digitsFrom]
    | next _ hc ih =>
      have hvalue := (digitValue?_eq_some_iff h16).2 hc
      obtain ⟨-, ds, hds, rfl⟩ := ih
      exact ⟨by simp, _, mapM_concat_eq_some_iff.2 ⟨ds, hds, _, hvalue, rfl⟩,
        digitsFrom_append _ _ _ _⟩
  · rintro ⟨hne, ds, hread, rfl⟩
    induction cs using List.reverseRecOn generalizing ds with
    | nil => exact absurd rfl hne
    | append_singleton cs c ih =>
      obtain ⟨ds, hds, d, hvalue, rfl⟩ := mapM_concat_eq_some_iff.1 hread
      have hc := (digitValue?_eq_some_iff h16).1 hvalue
      rw [digitsFrom_append]
      by_cases hcs : cs = []
      · subst hcs
        cases hds
        simpa [digitsFrom] using Digits.first hc
      · exact .next (ih hcs ds hds) hc

theorem Digits.ne_nil (h : Digits radix cs n) : cs ≠ [] := by
  cases h <;> simp

/-- Signs and the marks of hexadecimal text are no digits. -/
theorem Digits.not_mem (h16 : radix ≤ 16) {c : Char} (hc : digitValue? radix c = none)
    (h : Digits radix cs n) : c ∉ cs := by
  induction h with
  | first hd =>
    rw [List.mem_singleton]
    rintro rfl
    rw [(digitValue?_eq_some_iff h16).2 hd] at hc
    cases hc
  | next _ hd ih =>
    rw [List.mem_append, List.mem_singleton]
    rintro (hmem | rfl)
    · exact ih hmem
    · rw [(digitValue?_eq_some_iff h16).2 hd] at hc
      cases hc

/-! ## Numbers -/

theorem digitValue?_plus (radix : Nat) : digitValue? radix '+' = none := rfl

theorem readDigits_eq_ok_iff_digits (hradix : 0 < radix) (h16 : radix ≤ 16) (hlimit : 0 < limit)
    (hne : cs ≠ []) : readDigits radix limit 0 cs = .ok n ↔ Digits radix cs n ∧ n < limit := by
  rw [readDigits_eq_ok_iff hradix hlimit, digits_iff h16]
  constructor
  · rintro ⟨ds, hds, hn, hlt⟩; exact ⟨⟨hne, ds, hds, hn⟩, hlt⟩
  · rintro ⟨⟨-, ds, hds, hn⟩, hlt⟩; exact ⟨ds, hds, hn, hlt⟩

theorem number_plus_iff (h16 : radix ≤ 16) :
    Number radix ('+' :: cs) n ↔ Digits radix cs n := by
  constructor
  · intro h
    cases h with
    | bare h => exact absurd List.mem_cons_self (h.not_mem h16 (digitValue?_plus radix))
    | plus h => exact h
  · exact .plus

theorem number_of_not_plus (hplus : ∀ rest, cs ≠ '+' :: rest) :
    Number radix cs n ↔ Digits radix cs n := by
  constructor
  · intro h
    cases h with
    | bare h => exact h
    | plus h => exact absurd rfl (hplus _)
  · exact .bare

/-- A number is read if it is below the limit. -/
theorem readNumber_eq_ok_iff (hradix : 0 < radix) (h16 : radix ≤ 16) (hlimit : 0 < limit) :
    readNumber radix limit cs = .ok n ↔ Number radix cs n ∧ n < limit := by
  unfold readNumber
  split
  · refine iff_of_false (fun h => by cases h) ?_
    rintro ⟨hnil, -⟩
    rw [number_of_not_plus (by simp)] at hnil
    exact hnil.ne_nil rfl
  · refine iff_of_false (fun h => by cases h) ?_
    rintro ⟨hnil, -⟩
    rw [number_plus_iff h16] at hnil
    exact hnil.ne_nil rfl
  · next digits hne =>
    rw [number_plus_iff h16]
    exact readDigits_eq_ok_iff_digits hradix h16 hlimit fun hnil => hne hnil
  · next hnil hlone hfront =>
    rw [number_of_not_plus fun rest h => hfront rest h]
    exact readDigits_eq_ok_iff_digits hradix h16 hlimit hnil

/-- The value of a number is the one that it is read with below a large limit. -/
theorem Number.unique {m : Nat} (hradix : 0 < radix) (h16 : radix ≤ 16) (hn : Number radix cs n)
    (hm : Number radix cs m) : n = m := by
  have hpos : 0 < n + m + 1 := Nat.succ_pos _
  have hread := (readNumber_eq_ok_iff hradix h16 hpos).2 ⟨hn, by omega⟩
  rw [(readNumber_eq_ok_iff hradix h16 hpos).2 ⟨hm, by omega⟩] at hread
  cases hread
  rfl

theorem Number.ne_minus (h : Number radix cs n) (h16 : radix ≤ 16) (rest : List Char) :
    cs ≠ '-' :: rest := by
  rintro rfl
  rw [number_of_not_plus (by simp)] at h
  exact h.not_mem h16 rfl List.mem_cons_self

/-! ## Unsigned words -/

theorem hexMarked?_eq_some_iff : hexMarked? cs = some digits ↔
    cs = '0' :: 'x' :: digits ∨ cs = '0' :: 'X' :: digits := by
  constructor
  · intro h
    unfold hexMarked? at h
    split at h
    · cases h; exact .inl rfl
    · cases h; exact .inr rfl
    · cases h
  · rintro (rfl | rfl) <;> rfl

theorem hexLiteral_of_marked (h : hexMarked? cs = some digits) :
    HexLiteral cs n ↔ Number 16 digits n := by
  constructor
  · intro hlit
    cases hlit with
    | lower hn => cases h; exact hn
    | upper hn => cases h; exact hn
  · intro hn
    rcases hexMarked?_eq_some_iff.1 h with rfl | rfl
    · exact .lower hn
    · exact .upper hn

theorem HexLiteral.unique {m : Nat} (hn : HexLiteral cs n) (hm : HexLiteral cs m) : n = m := by
  cases hn with
  | lower hn => cases hm with | lower hm => exact hn.unique (by decide) (by decide) hm
  | upper hn => cases hm with | upper hm => exact hn.unique (by decide) (by decide) hm

theorem HexLiteral.marked (h : HexLiteral cs n) : ∃ digits, hexMarked? cs = some digits := by
  cases h <;> exact ⟨_, rfl⟩

theorem not_hexLiteral_of_not_marked (hmark : hexMarked? cs = none) : ¬ HexLiteral cs n := by
  intro h
  obtain ⟨digits, hsome⟩ := h.marked
  rw [hmark] at hsome
  cases hsome

/-- The mark of hexadecimal text is no decimal digit. -/
theorem Number.not_marked (h : Number 10 cs n) : hexMarked? cs = none := by
  rw [Option.eq_none_iff_forall_ne_some]
  intro digits hmark
  have hplus : ∀ rest, cs ≠ '+' :: rest := by
    rcases hexMarked?_eq_some_iff.1 hmark with rfl | rfl <;> simp
  rw [number_of_not_plus hplus] at h
  have hx := h.not_mem (by decide) (rfl : digitValue? 10 'x' = none)
  have hX := h.not_mem (by decide) (rfl : digitValue? 10 'X' = none)
  rcases hexMarked?_eq_some_iff.1 hmark with rfl | rfl
  · simp at hx
  · simp at hX

theorem unsignedLiteral_of_marked (h : hexMarked? cs = some digits) :
    UnsignedLiteral cs n ↔ Number 16 digits n := by
  rw [← hexLiteral_of_marked h]
  constructor
  · intro hlit
    cases hlit with
    | hex hlit => exact hlit
    | decimal hn => rw [hn.not_marked] at h; cases h
  · exact .hex

theorem unsignedLiteral_of_not_marked (h : hexMarked? cs = none) :
    UnsignedLiteral cs n ↔ Number 10 cs n := by
  constructor
  · intro hlit
    cases hlit with
    | hex hlit => exact absurd hlit (not_hexLiteral_of_not_marked h)
    | decimal hn => exact hn
  · exact .decimal

/-- The number that is read is that of the word, since it is below the limit. -/
theorem readNumber_unsigned_eq_ok_iff (hradix : 0 < radix) (h16 : radix ≤ 16) {v : UInt64} :
    (∃ n, readNumber radix unsignedLimit cs = .ok n ∧ UInt64.ofNat n = v) ↔
      Number radix cs v.toNat := by
  have hv : v.toNat < unsignedLimit := v.toNat_lt
  constructor
  · rintro ⟨n, hread, rfl⟩
    obtain ⟨hn, hlt⟩ := (readNumber_eq_ok_iff hradix h16 (by decide)).1 hread
    rwa [UInt64.toNat_ofNat_of_lt' hlt]
  · intro hn
    exact ⟨v.toNat, (readNumber_eq_ok_iff hradix h16 (by decide)).2 ⟨hn, hv⟩, UInt64.ofNat_toNat⟩

/-- An unsigned word is read exactly from the literals of its number. -/
theorem readUnsignedChars_eq_ok_iff {v : UInt64} :
    readUnsignedChars text = .ok v ↔ UnsignedLiteral (Text.trim text) v.toNat := by
  unfold readUnsignedChars
  dsimp only
  cases hmark : hexMarked? (Text.trim text) with
  | some digits =>
    rw [unsignedLiteral_of_marked hmark, ← readNumber_unsigned_eq_ok_iff (by decide) (by decide)]
    dsimp only
    cases readNumber 16 unsignedLimit digits <;> simp
  | none =>
    rw [unsignedLiteral_of_not_marked hmark,
      ← readNumber_unsigned_eq_ok_iff (by decide) (by decide)]
    cases readNumber 10 unsignedLimit (Text.trim text) <;> simp

/-- A literal has one value below the limit of words. -/
theorem readUnsignedChars_of_literal (h : UnsignedLiteral (Text.trim text) n)
    (hn : n < unsignedLimit) : readUnsignedChars text = .ok (UInt64.ofNat n) := by
  rw [readUnsignedChars_eq_ok_iff, UInt64.toNat_ofNat_of_lt' hn]
  exact h

theorem readUnsignedChars_eq_error_iff : (∃ e, readUnsignedChars text = .error e) ↔
    ∀ n, UnsignedLiteral (Text.trim text) n → unsignedLimit ≤ n := by
  constructor
  · rintro ⟨e, he⟩ n hlit
    by_contra hn
    rw [readUnsignedChars_of_literal hlit (Nat.not_le.1 hn)] at he
    cases he
  · intro hall
    cases hread : readUnsignedChars text with
    | error e => exact ⟨e, rfl⟩
    | ok v =>
      exact absurd (hall _ (readUnsignedChars_eq_ok_iff.1 hread)) (Nat.not_le.2 v.toNat_lt)

/-! ## Signed words -/

theorem toInt_neg_toInt64 {m : UInt64} (h : m.toNat ≤ signedLimit) :
    (-m.toInt64).toInt = -m.toNat := by
  rw [Int64.toInt_neg, toInt_toInt64, Int.bmod_def]
  unfold signedLimit unsignedLimit at *
  split <;> split <;> omega

/-- The literals after a minus sign. -/
theorem signedLiteral_minus_iff {v : Int64} : SignedLiteral ('-' :: rest) v ↔
    ∃ m, UnsignedLiteral (Text.trim rest) m ∧ m ≤ signedLimit ∧ v.toInt = -m := by
  constructor
  · intro h
    cases h with
    | minus hbody hlit hm hv =>
      rw [← Text.trim_of_trimmed hbody] at hlit
      exact ⟨_, hlit, hm, hv⟩
    | hexLow hlit => cases hlit
    | hexHigh hlit => cases hlit
    | decimal hn => exact absurd rfl (hn.ne_minus (by decide) rest)
  · rintro ⟨m, hlit, hm, hv⟩
    exact .minus (Text.trimmed_trim rest) hlit hm hv

/-- The literals of bit patterns. -/
theorem signedLiteral_of_marked (hmark : hexMarked? cs = some digits) {v : Int64} :
    SignedLiteral cs v ↔ ∃ m : UInt64, HexLiteral cs m.toNat ∧ v = m.toInt64 := by
  constructor
  · intro h
    have hword : ∀ {m : Nat}, m < unsignedLimit → (UInt64.ofNat m).toNat = m :=
      fun hm => UInt64.toNat_ofNat_of_lt' hm
    cases h with
    | minus => cases hmark
    | @hexLow _ m _ hlit hm hv =>
      have hlt : m < unsignedLimit := Nat.lt_trans hm (by decide)
      refine ⟨UInt64.ofNat m, by rwa [hword hlt], Int64.toInt_inj.1 ?_⟩
      rw [hv, toInt_toInt64, hword hlt, if_pos hm]
    | @hexHigh _ m _ hlit hm hlt hv =>
      refine ⟨UInt64.ofNat m, by rwa [hword hlt], Int64.toInt_inj.1 ?_⟩
      rw [hv, toInt_toInt64, hword hlt, if_neg (Nat.not_lt.2 hm)]
    | decimal hn => rw [hn.not_marked] at hmark; cases hmark
  · rintro ⟨m, hlit, rfl⟩
    by_cases hm : m.toNat < signedLimit
    · exact .hexLow hlit hm (by rw [toInt_toInt64, if_pos hm])
    · exact .hexHigh hlit (Nat.not_lt.1 hm) m.toNat_lt (by rw [toInt_toInt64, if_neg hm])

/-- The decimal literals without a minus sign. -/
theorem signedLiteral_of_plain (hmark : hexMarked? cs = none) (hsign : ∀ rest, cs ≠ '-' :: rest)
    {v : Int64} : SignedLiteral cs v ↔ ∃ m, Number 10 cs m ∧ m < signedLimit ∧ v.toInt = m := by
  constructor
  · intro h
    cases h with
    | minus => exact absurd rfl (hsign _)
    | hexLow hlit => exact absurd hlit (not_hexLiteral_of_not_marked hmark)
    | hexHigh hlit => exact absurd hlit (not_hexLiteral_of_not_marked hmark)
    | decimal hn hm hv => exact ⟨_, hn, hm, hv⟩
  · rintro ⟨m, hn, hm, hv⟩
    exact .decimal hn hm hv

theorem readIntegerChars_iff_of_minus (hsign : Text.trim text = '-' :: rest) {v : Int64} :
    readIntegerChars text = .ok v ↔ SignedLiteral (Text.trim text) v := by
  rw [readIntegerChars_of_minus hsign, hsign, signedLiteral_minus_iff]
  constructor
  · intro h
    split at h
    · cases h
    · next m hread =>
      split at h
      · next hm =>
        cases h
        exact ⟨m.toNat, readUnsignedChars_eq_ok_iff.1 hread, hm, toInt_neg_toInt64 hm⟩
      · cases h
  · rintro ⟨m, hlit, hm, hv⟩
    have hlt : m < unsignedLimit := Nat.lt_of_le_of_lt hm (by decide)
    have hword : (UInt64.ofNat m).toNat = m := UInt64.toNat_ofNat_of_lt' hlt
    rw [readUnsignedChars_of_literal hlit hlt]
    dsimp only
    rw [hword, if_pos hm, Except.ok.injEq, ← Int64.toInt_inj, toInt_neg_toInt64 (by rwa [hword]),
      hword, hv]

theorem readIntegerChars_iff_of_marked (hmark : hexMarked? (Text.trim text) = some digits)
    {v : Int64} : readIntegerChars text = .ok v ↔ SignedLiteral (Text.trim text) v := by
  rw [readIntegerChars_of_marked hmark, signedLiteral_of_marked hmark]
  simp only [hexLiteral_of_marked hmark, ← unsignedLiteral_of_marked hmark,
    ← readUnsignedChars_eq_ok_iff]
  cases readUnsignedChars text <;> simp [Except.map, eq_comm]

theorem readIntegerChars_iff_of_plain (hsign : ∀ rest, Text.trim text ≠ '-' :: rest)
    (hmark : hexMarked? (Text.trim text) = none) {v : Int64} :
    readIntegerChars text = .ok v ↔ SignedLiteral (Text.trim text) v := by
  rw [readIntegerChars_of_plain hsign hmark, signedLiteral_of_plain hmark hsign]
  constructor
  · intro h
    split at h
    · next m hread =>
      cases h
      obtain ⟨hm, hlt⟩ := (readNumber_eq_ok_iff (by decide) (by decide) (by decide)).1 hread
      exact ⟨m, hm, hlt, Int64.toInt_ofNat_of_lt hlt⟩
    · cases h
  · rintro ⟨m, hm, hlt, hv⟩
    rw [(readNumber_eq_ok_iff (by decide) (by decide) (by decide)).2 ⟨hm, hlt⟩]
    dsimp only
    rw [Except.ok.injEq, ← Int64.toInt_inj, hv]
    exact Int64.toInt_ofNat_of_lt hlt

/-- A signed word is read exactly from its literals. -/
theorem readIntegerChars_eq_ok_iff {v : Int64} :
    readIntegerChars text = .ok v ↔ SignedLiteral (Text.trim text) v := by
  by_cases hsign : ∃ rest, Text.trim text = '-' :: rest
  · obtain ⟨rest, hsign⟩ := hsign
    exact readIntegerChars_iff_of_minus hsign
  · rw [not_exists] at hsign
    cases hmark : hexMarked? (Text.trim text) with
    | some digits => exact readIntegerChars_iff_of_marked hmark
    | none => exact readIntegerChars_iff_of_plain hsign hmark

theorem readIntegerChars_eq_error_iff : (∃ e, readIntegerChars text = .error e) ↔
    ∀ v, ¬ SignedLiteral (Text.trim text) v := by
  constructor
  · rintro ⟨e, he⟩ v hlit
    rw [readIntegerChars_eq_ok_iff.2 hlit] at he
    cases he
  · intro hall
    cases hread : readIntegerChars text with
    | error e => exact ⟨e, rfl⟩
    | ok v => exact absurd (readIntegerChars_eq_ok_iff.1 hread) (hall v)

theorem readIntegerChars_of_magnitude (hsign : Text.trim text = '-' :: rest)
    (hlit : UnsignedLiteral (Text.trim rest) n) (hn : n < unsignedLimit) :
    readIntegerChars text = if n ≤ signedLimit then .ok (-Int64.ofNat n)
      else .error (.outOfRange (String.ofList (Text.trim text))) := by
  have hread := readUnsignedChars_of_literal hlit hn
  have hword : (UInt64.ofNat n).toNat = n := UInt64.toNat_ofNat_of_lt' hn
  rw [readIntegerChars_of_minus hsign, hread]
  dsimp only
  rw [hword]
  rfl

/-! ## Texts -/

/-- A text is read as a word if and only if it is, between blanks, a literal of that word. Any other
text is refused: as an unsigned word if all its values are beyond the limit, as a signed word if it
is a literal of none. The magnitude of the least signed word can stand after a minus sign, and the
next one is out of range. -/
theorem read_iff_literal (s : String) :
    (∀ v, readUnsigned s = .ok v ↔
      ∃ body, Text.Trimmed s.toList body ∧ UnsignedLiteral body v.toNat) ∧
    (∀ v, readInteger s = .ok v ↔
      ∃ body, Text.Trimmed s.toList body ∧ SignedLiteral body v) ∧
    ((∃ e, readUnsigned s = .error e) ↔
      ∀ body n, Text.Trimmed s.toList body → UnsignedLiteral body n → unsignedLimit ≤ n) ∧
    ((∃ e, readInteger s = .error e) ↔
      ∀ body v, Text.Trimmed s.toList body → ¬ SignedLiteral body v) ∧
    (∀ rest body, Text.Trimmed s.toList ('-' :: rest) → Text.Trimmed rest body →
      (UnsignedLiteral body signedLimit → readInteger s = .ok Int64.minValue) ∧
      (UnsignedLiteral body (signedLimit + 1) →
        readInteger s = .error (.outOfRange (String.ofList ('-' :: rest))))) := by
  simp only [Text.trimmed_iff, exists_eq_left']
  refine ⟨fun v => readUnsignedChars_eq_ok_iff, fun v => readIntegerChars_eq_ok_iff,
    readUnsignedChars_eq_error_iff.trans ?_, readIntegerChars_eq_error_iff.trans ?_, ?_⟩
  · exact ⟨fun h body n hbody => hbody ▸ h n, fun h n => h _ n rfl⟩
  · exact ⟨fun h body v hbody => hbody ▸ h v, fun h v => h _ v rfl⟩
  · rintro rest body hsign rfl
    refine ⟨fun hlit => ?_, fun hlit => ?_⟩
    · exact (readIntegerChars_of_magnitude hsign hlit (by decide)).trans (if_pos (Nat.le_refl _))
    · rw [← hsign]
      exact (readIntegerChars_of_magnitude hsign hlit (by decide)).trans (if_neg (by decide))

/-- The least signed word in decimal, and the next number in hexadecimal with blanks around it. -/
theorem read_iff_literal_least : readInteger "-9223372036854775808" = .ok Int64.minValue ∧
    readInteger " - 0X8000000000000001 " = .error (.outOfRange "- 0X8000000000000001") := by
  constructor
  · obtain ⟨-, -, -, -, hends⟩ := read_iff_literal "-9223372036854775808"
    have hread : readUnsignedChars "9223372036854775808".toList = .ok 0x8000000000000000 := by decide
    exact (hends _ _ (Text.trimmed_iff.2 (by decide)) (Text.trimmed_trim _)).1
      (readUnsignedChars_eq_ok_iff.1 hread)
  · obtain ⟨-, -, -, -, hends⟩ := read_iff_literal " - 0X8000000000000001 "
    have hread : readUnsignedChars " 0X8000000000000001".toList = .ok 0x8000000000000001 := by decide
    exact (hends _ _ (Text.trimmed_iff.2 (by decide)) (Text.trimmed_trim _)).2
      (readUnsignedChars_eq_ok_iff.1 hread)

end ValueLattice.Numeral
