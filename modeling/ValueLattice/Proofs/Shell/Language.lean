/-
The language of the value commands. Each value that has a written form is read back from it,
whatever blanks stand between its words, and no line is read as a value without a written form. So
the written form of a value belongs to that value alone.
-/
import ValueLattice.Proofs.Numeral.Printed
import ValueLattice.Proofs.Shell.Failure
import ValueLattice.Proofs.Text.Cutting
import ValueLattice.Shell.Written

namespace ValueLattice

open Text (IsWord LaidOut)

/-! ## Lists of words -/

section Lists

variable {α : Type} {f : List Char → Option α} {xs : List α}

/-- Words that are each read back are read back as a list, in order and with repetitions. -/
theorem mapM_written {word : α → String} (h : ∀ x ∈ xs, f (word x).toList = some x) :
    ((xs.map word).map String.toList).mapM f = some xs := by
  induction xs with
  | nil => rfl
  | cons x xs ih =>
    rw [List.map_cons, List.map_cons, mapM_cons_eq_some_iff]
    exact ⟨x, h x List.mem_cons_self, xs, ih fun y hy => h y (List.mem_cons_of_mem _ hy), rfl⟩

theorem forall_of_mapM {p : α → Prop} {ws : List (List Char)} (hf : ∀ w x, f w = some x → p x)
    (h : ws.mapM f = some xs) : ∀ x ∈ xs, p x := by
  induction ws generalizing xs with
  | nil => cases h; simp
  | cons w ws ih =>
    obtain ⟨x, hx, rest, hrest, rfl⟩ := mapM_cons_eq_some_iff.1 h
    intro y hy
    rcases List.mem_cons.1 hy with rfl | hy
    · exact hf w y hx
    · exact ih hrest y hy

theorem Command.several_written {word : α → String} (hne : xs ≠ [])
    (h : ∀ x ∈ xs, f (word x).toList = some x) :
    several f ((xs.map word).map String.toList) = some xs := by
  obtain ⟨x, rest, rfl⟩ := List.exists_cons_of_ne_nil hne
  exact mapM_written h

end Lists

/-- What holds of the mark and of all parts holds of the joined text. -/
theorem Text.forall_joined {p : Char → Prop} {mark : String} {parts : List String}
    (hmark : ∀ c ∈ mark.toList, p c) (hparts : ∀ s ∈ parts, ∀ c ∈ s.toList, p c) :
    ∀ c ∈ (joined mark parts).toList, p c := by
  cases parts with
  | nil => intro c hc; simp [joined] at hc
  | cons s rest =>
    intro c hc
    rw [toList_joined_cons] at hc
    rcases List.mem_append.1 hc with hc | hc
    · exact hparts s List.mem_cons_self c hc
    · obtain ⟨t, ht, hc⟩ := List.mem_flatMap.1 hc
      rcases List.mem_append.1 hc with hc | hc
      · exact hmark c hc
      · exact hparts t (List.mem_cons_of_mem _ ht) c hc

theorem Numeral.readRange_written {α : Type} {bound : List Char → Except LiteralError α}
    {first last stride : List Char} {a b : α} {step : UInt64}
    (hfirst : ∀ c ∈ first, (c == ':') = false) (hlast : ∀ c ∈ last, (c == ':') = false)
    (hstride : ∀ c ∈ stride, (c == ':') = false) (ha : bound first = .ok a)
    (hb : bound last = .ok b) (hstep : readUnsignedChars stride = .ok step) :
    readRange bound (first ++ ':' :: (last ++ ':' :: stride)) = .ok (a, b, step) := by
  unfold readRange
  rw [Text.splitWhere_append hfirst rfl, Text.splitWhere_append hlast rfl,
    Text.splitWhere_of_forall hstride]
  simp [ha, hb, hstep, bind, Except.bind, pure, Except.pure]

/-! ## Arguments -/

namespace Command

open ValueSpec

theorem integer?_numberWord (v : Int64) : integer? (numberWord v).toList = some v := by
  unfold integer? numberWord
  rw [Numeral.readIntegerChars_signedHex]
  rfl

theorem mapM_numberWord (values : List Int64) :
    ((values.map numberWord).map String.toList).mapM integer? = some values :=
  mapM_written fun v _ => integer?_numberWord v

theorem toList_signedRangeWord (row : Int64 × Int64 × UInt64) :
    (signedRangeWord row).toList = (numberWord row.1).toList ++ ':' ::
      ((numberWord row.2.1).toList ++ ':' :: (Numeral.hex row.2.2.toNat).toList) := by
  simp [signedRangeWord]

theorem toList_unsignedRangeWord (row : UInt64 × UInt64 × UInt64) :
    (unsignedRangeWord row).toList = (Numeral.hex row.1.toNat).toList ++ ':' ::
      ((Numeral.hex row.2.1.toNat).toList ++ ':' :: (Numeral.hex row.2.2.toNat).toList) := by
  simp [unsignedRangeWord]

theorem toList_entryWord (e : TableEntry) :
    (entryWord e).toList = (Text.joined "," (e.inputs.map numberWord)).toList ++
      '=' :: (numberWord e.output).toList := by
  simp [entryWord]

theorem signedRange?_signedRangeWord (row : Int64 × Int64 × UInt64) :
    signedRange? (signedRangeWord row).toList = some row := by
  have hread : Numeral.readRange Numeral.readIntegerChars (signedRangeWord row).toList =
      .ok row := by
    have hnumber (v : Int64) : ∀ c ∈ (numberWord v).toList, (c == ':') = false :=
      Numeral.forall_signedHex rfl rfl (by decide)
    have hstep : ∀ c ∈ (Numeral.hex row.2.2.toNat).toList, (c == ':') = false :=
      Numeral.forall_hex rfl (by decide)
    rw [toList_signedRangeWord]
    exact Numeral.readRange_written (hnumber _) (hnumber _) hstep
      (Numeral.readIntegerChars_signedHex _) (Numeral.readIntegerChars_signedHex _)
      (Numeral.readUnsignedChars_hex_toNat _)
  unfold signedRange?
  rw [hread]
  rfl

theorem unsignedRange?_unsignedRangeWord (row : UInt64 × UInt64 × UInt64) :
    unsignedRange? (unsignedRangeWord row).toList = some row := by
  have hread : Numeral.readRange Numeral.readUnsignedChars (unsignedRangeWord row).toList =
      .ok row := by
    have hhex (n : Nat) : ∀ c ∈ (Numeral.hex n).toList, (c == ':') = false :=
      Numeral.forall_hex rfl (by decide)
    rw [toList_unsignedRangeWord]
    exact Numeral.readRange_written (hhex _) (hhex _) (hhex _)
      (Numeral.readUnsignedChars_hex_toNat _) (Numeral.readUnsignedChars_hex_toNat _)
      (Numeral.readUnsignedChars_hex_toNat _)
  unfold unsignedRange?
  rw [hread]
  rfl

theorem tableEntry?_entryWord {e : TableEntry} (hne : e.inputs ≠ []) :
    tableEntry? (entryWord e).toList = some e := by
  have hparts : ∀ s ∈ e.inputs.map numberWord, ∀ c ∈ s.toList, c ≠ ',' ∧ c ≠ '=' := by
    intro s hs
    obtain ⟨v, -, rfl⟩ := List.mem_map.1 hs
    exact Numeral.forall_signedHex (by decide) (by decide) (by decide)
  have hinputs : '=' ∉ (Text.joined "," (e.inputs.map numberWord)).toList := fun hmem =>
    Text.forall_joined (p := (· ≠ '=')) (by simp) (fun s hs c hc => (hparts s hs c hc).2) _ hmem
      rfl
  have hsplit : Text.splitWhere (· == ',') (Text.joined "," (e.inputs.map numberWord)).toList =
      (e.inputs.map numberWord).map String.toList :=
    Text.splitWhere_joined rfl (by simpa using hne) fun s hs c hc => (hparts s hs c hc).1
  have hread := mapM_numberWord e.inputs
  unfold tableEntry?
  rw [toList_entryWord, Text.splitOnce_append hinputs]
  simp only [Option.bind_eq_bind, Option.bind_some, hsplit, hread, integer?_numberWord]
  rfl

/-- A register is read back from its text if that is a word that names it. -/
theorem register_text {r : Register} (h : NamesItself r) : register r.text.toList = r := by
  cases r with
  | index i =>
    have hlt := i.toNat_lt
    have hread : Numeral.readUnsignedChars (Register.index i).text.toList = _ :=
      Numeral.readUnsignedChars_decimalNat (n := i.toNat) (by unfold unsignedLimit; omega)
    -- the number passes through a wider word and comes back as it was
    have hword : (UInt64.ofNat i.toNat).toNat = i.toNat :=
      UInt64.toNat_ofNat_of_lt' (Nat.lt_of_lt_of_le hlt (by decide))
    have hnumber : (UInt64.ofNat i.toNat).toUInt32 = i := by
      rw [← UInt32.toNat_inj, UInt64.toNat_toUInt32, hword, Nat.mod_eq_of_lt hlt]
    unfold register
    rw [hread]
    simp only [hword]
    rw [if_pos (by unfold registerLimit; omega), hnumber]
  | name n =>
    obtain ⟨-, -, hlarge⟩ := h
    unfold register
    split
    · next v hv => rw [if_neg (Nat.not_lt.2 (hlarge v hv))]; simp [Register.text]
    · simp [Register.text]

/-! ## Reading what was written -/

variable {spec : ValueSpec}

theorem single_written (v : Int64) : single integer? ([numberWord v].map String.toList) = some v :=
  integer?_numberWord v

theorem spec?_written (h : spec.Expressible) :
    spec? spec.keyword (spec.arguments.map String.toList) = some spec := by
  cases spec with
  | undetermined => rfl
  | returnAddress => rfl
  | entry r =>
    have hread := register_text h
    simp only [spec?, keyword, arguments, List.map_cons, List.map_nil, single, hread]
  | signedRanges rows =>
    have hread := several_written h fun row _ => signedRange?_signedRangeWord row
    simp only [spec?, keyword, arguments, hread, Option.map_some]
  | unsignedRanges rows =>
    have hread := several_written h fun row _ => unsignedRange?_unsignedRangeWord row
    simp only [spec?, keyword, arguments, hread, Option.map_some]
  | table entries =>
    have hread := several_written h.1 fun e he => tableEntry?_entryWord (h.2 e he)
    simp only [spec?, keyword, arguments, hread, Option.map_some]
  | inSet values =>
    have hread := mapM_numberWord values
    simp only [spec?, keyword, arguments, hread, Option.map_some]
  | notInSet values =>
    have hread := mapM_numberWord values
    simp only [spec?, keyword, arguments, hread, Option.map_some]
  | _ v => simp only [spec?, keyword, arguments, single_written, Option.map_some]

/-- The command word of a value is no other command. -/
theorem ofWords?_keyword (spec : ValueSpec) (args : List (List Char)) :
    ofWords? spec.keyword args = (spec? spec.keyword args).map .value := by
  cases spec <;> rfl

theorem isWord_keyword (spec : ValueSpec) : IsWord spec.keyword.toList := by
  cases spec <;> exact ⟨by simp [keyword], by simp [keyword]; decide⟩

theorem isWord_numberWord (v : Int64) : IsWord (numberWord v).toList := by
  refine ⟨?_, Numeral.isBlank_signedHex v.toInt⟩
  unfold numberWord
  rw [Numeral.toList_signedHex]
  split <;> simp

theorem isWord_hex (n : Nat) : IsWord (Numeral.hex n).toList :=
  ⟨by simp, Numeral.isBlank_hex n⟩

theorem isWord_signedRangeWord (row : Int64 × Int64 × UInt64) :
    IsWord (signedRangeWord row).toList := by
  rw [toList_signedRangeWord]
  have hcolon : Text.isBlank ':' = false := rfl
  have hrest := (isWord_numberWord row.2.1).append_cons hcolon (isWord_hex row.2.2.toNat).2
  exact (isWord_numberWord row.1).append_cons hcolon hrest.2

theorem isWord_unsignedRangeWord (row : UInt64 × UInt64 × UInt64) :
    IsWord (unsignedRangeWord row).toList := by
  rw [toList_unsignedRangeWord]
  have hcolon : Text.isBlank ':' = false := rfl
  have hrest := (isWord_hex row.2.1.toNat).append_cons hcolon (isWord_hex row.2.2.toNat).2
  exact (isWord_hex row.1.toNat).append_cons hcolon hrest.2

theorem isWord_entryWord (e : TableEntry) : IsWord (entryWord e).toList := by
  have hinputs : ∀ c ∈ (Text.joined "," (e.inputs.map numberWord)).toList,
      Text.isBlank c = false :=
    Text.forall_joined (by simp; rfl)
      (List.forall_mem_map.2 fun v _ => (isWord_numberWord v).2)
  rw [toList_entryWord]
  refine ⟨by simp, fun c hc => ?_⟩
  rcases List.mem_append.1 hc with hc | hc
  · exact hinputs c hc
  · rcases List.mem_cons.1 hc with rfl | hc
    · rfl
    · exact (isWord_numberWord e.output).2 c hc

theorem isWord_text {r : Register} (h : NamesItself r) : IsWord r.text.toList := by
  cases r with
  | index i => exact ⟨by simp [Register.text, Nat.toDigits_ne_nil], Numeral.isBlank_decimalNat _⟩
  | name n => exact ⟨h.1, h.2.1⟩

theorem isWord_of_mem_arguments (h : spec.Expressible) :
    ∀ w ∈ spec.arguments, IsWord w.toList := by
  cases spec with
  | undetermined => exact List.forall_mem_nil _
  | returnAddress => exact List.forall_mem_nil _
  | entry r => exact List.forall_mem_singleton.2 (isWord_text h)
  | signedRanges rows => exact List.forall_mem_map.2 fun row _ => isWord_signedRangeWord row
  | unsignedRanges rows => exact List.forall_mem_map.2 fun row _ => isWord_unsignedRangeWord row
  | table entries => exact List.forall_mem_map.2 fun e _ => isWord_entryWord e
  | inSet values => exact List.forall_mem_map.2 fun v _ => isWord_numberWord v
  | notInSet values => exact List.forall_mem_map.2 fun v _ => isWord_numberWord v
  | _ v => exact List.forall_mem_singleton.2 (isWord_numberWord v)

/-- The written form of an expressible value consists of words. -/
theorem isWord_of_mem_words (h : spec.Expressible) : ∀ w ∈ spec.words, IsWord w.toList :=
  List.forall_mem_cons.2 ⟨isWord_keyword spec, isWord_of_mem_arguments h⟩

/-- However the words of an expressible value are laid out on a line, the line is read as it. -/
theorem parse?_of_laidOut (h : spec.Expressible) {line : String}
    (hline : LaidOut (spec.words.map String.toList) line.toList) :
    parse? line = some (.value spec) := by
  have hwords : Text.words line.toList = spec.words.map String.toList :=
    Text.words_of_laidOut hline (List.forall_mem_map.2 (isWord_of_mem_words h))
  unfold parse?
  rw [hwords, words, List.map_cons]
  simp only [String.ofList_toList, ofWords?_keyword, spec?_written h]
  rfl

/-! ## What is read can be written -/

theorem namesItself_register {w : List Char} (hw : IsWord w) : NamesItself (register w) := by
  unfold register
  split
  · next v hread =>
    split
    · trivial
    · next hlarge =>
      refine ⟨by simpa using hw.1, by simpa using hw.2, fun u hu => ?_⟩
      rw [Numeral.readUnsigned, String.toList_ofList, hread] at hu
      cases hu
      exact Nat.not_lt.1 hlarge
  · next hread =>
    refine ⟨by simpa using hw.1, by simpa using hw.2, fun u hu => ?_⟩
    rw [Numeral.readUnsigned, String.toList_ofList, hread] at hu
    cases hu

/-- A table entry that is read has an input: splitting leaves at least one part, and each part has
to be a number. -/
theorem inputs_ne_nil {w : List Char} {e : TableEntry} (h : tableEntry? w = some e) :
    e.inputs ≠ [] := by
  unfold tableEntry? at h
  obtain ⟨⟨before, after⟩, -, h⟩ := Option.bind_eq_some_iff.1 h
  obtain ⟨inputs, hinputs, h⟩ := Option.bind_eq_some_iff.1 h
  obtain ⟨output, -, h⟩ := Option.bind_eq_some_iff.1 h
  cases h
  -- also an empty text is cut into one part, which is no number
  obtain ⟨part, parts, hparts⟩ := List.exists_cons_of_ne_nil
    (Text.splitWhere_ne_nil (· == ',') before)
  rw [hparts] at hinputs
  obtain ⟨v, -, rest, -, rfl⟩ := mapM_cons_eq_some_iff.1 hinputs
  exact List.cons_ne_nil v rest

theorem expressible_of_spec? {word : String} {args : List (List Char)}
    (hargs : ∀ w ∈ args, IsWord w) (h : spec? word args = some spec) : spec.Expressible := by
  cases spec with
  | entry r =>
    unfold spec? at h
    split at h <;> simp [single_eq_some_iff] at h
    obtain ⟨w, rfl, rfl⟩ := h
    exact namesItself_register (hargs w List.mem_cons_self)
  | signedRanges rows => exact ranged_of_spec? h
  | unsignedRanges rows => exact ranged_of_spec? h
  | table entries =>
    unfold spec? at h
    split at h <;> simp [single_eq_some_iff] at h
    refine ⟨several_ne_nil h, ?_⟩
    cases args with
    | nil => cases h
    | cons w ws => exact forall_of_mapM (fun w e => inputs_ne_nil) h
  | _ => trivial

theorem expressible_of_parse? {line : String} (h : parse? line = some (.value spec)) :
    spec.Expressible := by
  unfold parse? at h
  split at h
  · cases h
  · next word args hwords =>
    have hargs : ∀ w ∈ args, IsWord w := fun w hw =>
      Text.isWord_of_mem_words (hwords ▸ List.mem_cons_of_mem word hw)
    -- no other command word gives a value command
    unfold ofWords? at h
    split at h <;> simp [single_eq_some_iff] at h
    exact expressible_of_spec? hargs h

/-- The language of the value commands is complete and unambiguous: whatever blanks stand between
and around the words of an expressible value, the line is read as that value, with its lists in
order and with repetitions; and only expressible values are read from lines. -/
theorem parse?_written :
    (∀ spec : ValueSpec, spec.Expressible → ∀ line : String,
      LaidOut (spec.words.map String.toList) line.toList → parse? line = some (.value spec)) ∧
    (∀ (line : String) (spec : ValueSpec),
      parse? line = some (.value spec) → spec.Expressible) :=
  ⟨fun _ h _ hline => parse?_of_laidOut h hline, fun _ _ h => expressible_of_parse? h⟩

/-- A table with a repeated entry is read from a line with a tab, and with blanks at both ends. -/
theorem parse?_written_table :
    let e : TableEntry := ⟨[1, -5], 3⟩
    let line := "  table\t0x1,-0x5=0x3  0x1,-0x5=0x3 "
    LaidOut ((ValueSpec.table [e, e]).words.map String.toList) line.toList ∧
      (ValueSpec.table [e, e]).Expressible ∧ parse? line = some (.value (.table [e, e])) := by
  have hwords : (ValueSpec.table [⟨[1, -5], 3⟩, ⟨[1, -5], 3⟩]).words =
      ["table", "0x1,-0x5=0x3", "0x1,-0x5=0x3"] := by decide
  have hsplit : "  table\t0x1,-0x5=0x3  0x1,-0x5=0x3 ".toList =
      ' ' :: ' ' :: ("table".toList ++ '\t' :: ("0x1,-0x5=0x3".toList ++ ' ' :: ' ' ::
        ("0x1,-0x5=0x3".toList ++ [' ']))) := by decide
  intro e line
  have hline : LaidOut ((ValueSpec.table [e, e]).words.map String.toList) line.toList := by
    rw [hwords, hsplit]
    exact .blank rfl (.blank rfl (.word _ rfl (.word _ rfl (.blank rfl (.word _ rfl .nothing)))))
  have hspec : (ValueSpec.table [e, e]).Expressible := ⟨by decide, by decide⟩
  exact ⟨hline, hspec, parse?_written.1 _ hspec line hline⟩

end Command

end ValueLattice
