/-
The text of a value set tells the fact that it states. The opening words tell the kind, and what
stands between them and the closing bracket tells the number, the ranges, the entries or the values:
each of them ends by itself, although the parts of a range and of an entry are separated as the
items of a list are. Entry values alone can be confused with each other, where two registers have
the same text.
-/
import ValueLattice.Proofs.Text.Ending
import ValueLattice.Proofs.ValueSet.Equality

namespace ValueLattice

open Text (EndsBefore Stops Closes)

/-! ## Items -/

theorem endsBefore_signed :
    EndsBefore Stops fun v : Int64 => (Numeral.signedHex v.toInt).toList :=
  Numeral.endsBefore_signedHex.comp fun _ _ => Int64.toInt_inj.1

theorem not_closes_signed (v : Int64) (cs : List Char) :
    ¬ Closes ((Numeral.signedHex v.toInt).toList ++ cs) := by
  intro h
  obtain ⟨digits, hdigits | hdigits⟩ := Numeral.exists_toList_signedHex v.toInt
  · rw [hdigits] at h
    exact absurd (h '-' rfl) (by decide)
  · rw [hdigits] at h
    exact absurd (h '0' rfl) (by decide)

namespace Range

variable {α : Type} [Bound α]

/-- The end of the text of a range, from its step on. -/
def ending (step : UInt64) : List Char :=
  if step = 1 then ['>']
  else ',' :: ' ' :: 's' :: 't' :: 'e' :: 'p' :: ' ' :: ((Numeral.hex step.toNat).toList ++ ['>'])

theorem toList_text (r : Range α) : r.text.toList =
    "<range: ".toList ++ ((Numeral.signedHex (Bound.toInt r.start)).toList ++
      (' ' :: 't' :: 'o' :: ' ' ::
        ((Numeral.signedHex (Bound.toInt r.stop)).toList ++ ending r.step))) := by
  unfold text ending
  split <;> simp

theorem stops_ending (step : UInt64) (cs : List Char) : Stops (ending step ++ cs) := by
  unfold ending
  split <;> exact Text.stops_cons rfl _

/-- A step that is written is not one. -/
theorem endsBefore_ending : EndsBefore (fun _ => True) ending := by
  intro a b r s _ _ heq
  unfold ending at heq
  -- the bracket and the comma tell whether a step is written
  split at heq
  · next ha =>
    split at heq
    · next hb => exact ⟨ha.trans hb.symm, (List.cons.inj heq).2⟩
    · exact absurd (List.cons.inj heq).1 (by decide)
  · split at heq
    · exact absurd (List.cons.inj heq).1 (by decide)
    · simp only [List.cons_append, List.append_assoc, List.cons.injEq, true_and,
        List.nil_append] at heq
      obtain ⟨hstep, hrest⟩ := Numeral.endsBefore_hex (Text.stops_cons rfl r)
        (Text.stops_cons rfl s) heq
      exact ⟨UInt64.toNat_inj.1 hstep, (List.cons.inj hrest).2⟩

theorem endsBefore_text (hα : Function.Injective (Bound.toInt : α → Int)) :
    EndsBefore Stops fun r : Range α => r.text.toList := by
  intro a b r s hr hs heq
  simp only [toList_text, List.append_assoc, List.cons_append] at heq
  obtain ⟨hstart, heq⟩ := Numeral.endsBefore_signedHex (Text.stops_cons rfl _)
    (Text.stops_cons rfl _) (List.append_cancel_left heq)
  simp only [List.cons.injEq, true_and] at heq
  obtain ⟨hstop, heq⟩ := Numeral.endsBefore_signedHex (stops_ending _ _) (stops_ending _ _) heq
  obtain ⟨hstep, hrest⟩ := endsBefore_ending trivial trivial heq
  obtain ⟨start, stop, step, hne⟩ := a
  obtain ⟨start', stop', step', hne'⟩ := b
  obtain rfl := hα hstart
  obtain rfl := hα hstop
  obtain rfl : step = step' := hstep
  exact ⟨rfl, hrest⟩

theorem not_closes_text (r : Range α) (cs : List Char) : ¬ Closes (r.text.toList ++ cs) := by
  intro h
  rw [toList_text] at h
  exact absurd (h '<' (by simp)) (by decide)

end Range

namespace TableEntry

theorem toList_text (e : TableEntry) : e.text.toList =
    (Text.bracketed (e.inputs.map fun v => Numeral.signedHex v.toInt)).toList ++
      (' ' :: '-' :: '>' :: ' ' :: (Numeral.signedHex e.output.toInt).toList) := by
  simp [text]

theorem endsBefore_text : EndsBefore Stops fun e : TableEntry => e.text.toList := by
  intro a b r s hr hs heq
  simp only [toList_text, List.cons_append, List.append_assoc] at heq
  obtain ⟨hinputs, hrest⟩ := endsBefore_signed.bracketed not_closes_signed trivial trivial heq
  simp only [List.cons.injEq, true_and] at hrest
  obtain ⟨houtput, hend⟩ := endsBefore_signed hr hs hrest
  obtain ⟨inputs, output⟩ := a
  obtain ⟨inputs', output'⟩ := b
  obtain rfl : inputs = inputs' := hinputs
  obtain rfl : output = output' := houtput
  exact ⟨rfl, hend⟩

theorem not_closes_text (e : TableEntry) (cs : List Char) : ¬ Closes (e.text.toList ++ cs) := by
  intro h
  rw [toList_text, Text.toList_bracketed] at h
  exact absurd (h '[' rfl) (by decide)

end TableEntry

namespace ValueSet

variable {a b : ValueSet} {layout : Layout}

/-! ## Kinds -/

/-- The kind that the opening words of a text tell. -/
def kindShown : List Char → Option Kind
  | '<' :: 'u' :: 'n' :: 'd' :: _ => some .undetermined
  | '<' :: 'u' :: 'n' :: 's' :: _ => some .unsignedRange
  | '<' :: 'e' :: _ => some .entryValue
  | '<' :: 'c' :: 'o' :: 'n' :: 's' :: 't' :: ' ' :: 'p' :: _ => some .constantPointer
  | '<' :: 'c' :: _ => some .constant
  | '<' :: 's' :: 't' :: _ => some .stackOffset
  | '<' :: 's' :: 'i' :: _ => some .signedRange
  | '<' :: 'r' :: _ => some .returnAddress
  | '<' :: 'i' :: 'm' :: _ => some .importedAddress
  | '<' :: 'i' :: 'n' :: _ => some .inSet
  | '<' :: 't' :: _ => some .lookupTable
  | '<' :: 'n' :: _ => some .notInSet
  | _ => none

theorem kindShown_format (s : ValueSet) (layout : Layout) :
    kindShown (s.format layout).toList = some s.kind := by
  cases s with
  | constant v =>
    -- what follows the opening word is a sign or a digit, not the word for a pointer
    obtain ⟨digits, hdigits | hdigits⟩ := Numeral.exists_toList_signedHex v.toInt
    · dsimp only [format]
      simp [hdigits, kindShown, kind]
    · dsimp only [format]
      simp [hdigits, kindShown, kind]
  | _ =>
    dsimp only [format]
    simp [kindShown, kind]

theorem kind_eq_of_text_eq (h : a.text = b.text) : a.kind = b.kind := by
  have hshown : some a.kind = some b.kind := by
    rw [← kindShown_format a .unbounded, ← kindShown_format b .unbounded]
    exact congrArg (fun s : String => kindShown s.toList) h
  exact Option.some.inj hshown

/-! ## Contents -/

theorem joinLimited_of_length_le {limit : Nat} {items : List String} (h : items.length ≤ limit) :
    joinLimited limit items = Text.joined ", " items := by
  unfold joinLimited
  rw [if_neg (Nat.not_lt.2 h), List.take_of_length_le h]

/-- Lists that are not cut are told apart. -/
theorem joinLimited_inj {α : Type} {item : α → String} {limit : Nat} {xs ys : List α}
    (h : EndsBefore Stops fun a => (item a).toList)
    (hopen : ∀ a cs, ¬ Closes ((item a).toList ++ cs)) (hxs : xs.length ≤ limit)
    (hys : ys.length ≤ limit)
    (heq : joinLimited limit (xs.map item) = joinLimited limit (ys.map item)) : xs = ys := by
  rw [joinLimited_of_length_le (by rwa [List.length_map]),
    joinLimited_of_length_le (by rwa [List.length_map])] at heq
  exact (h.joined hopen).injective Text.closes_nil heq

theorem eq_of_signedHex_eq {v w : Int64}
    (h : Numeral.signedHex v.toInt = Numeral.signedHex w.toInt) : v = w :=
  endsBefore_signed.injective Text.stops_nil h

theorem withoutOffset_eq_of_text_eq (hentry : a.kind ≠ .entryValue)
    (ha : a.count < unsignedLimit) (hb : b.count < unsignedLimit) (h : a.text = b.text) :
    a.withoutOffset = b.withoutOffset := by
  have hkind := kind_eq_of_text_eq h
  have hinner {first last s t : String} (h : first ++ s ++ last = first ++ t ++ last) : s = t :=
    (String.append_right_inj first).1 ((String.append_left_inj last).1 h)
  -- texts of one kind share their opening and closing, and no list is cut
  cases a with
  | undetermined => cases b <;> cases hkind; rfl
  | returnAddress => cases b <;> cases hkind; rfl
  | entry r => exact absurd rfl hentry
  | constant v => cases b with
    | constant w => rw [eq_of_signedHex_eq (hinner h)]
    | _ => cases hkind
  | constantPointer v => cases b with
    | constantPointer w => rw [eq_of_signedHex_eq (hinner h)]
    | _ => cases hkind
  | stackOffset v => cases b with
    | stackOffset w => rw [eq_of_signedHex_eq (hinner h)]
    | _ => cases hkind
  | imported v => cases b with
    | imported w => rw [eq_of_signedHex_eq (hinner h)]
    | _ => cases hkind
  | signedRanges offset ranges => cases b with
    | signedRanges offset' ranges' =>
      have hranges := joinLimited_inj (Range.endsBefore_text fun _ _ => Int64.toInt_inj.1)
        Range.not_closes_text (Nat.le_pred_of_lt ha) (Nat.le_pred_of_lt hb) (hinner h)
      rw [hranges]
      rfl
    | _ => cases hkind
  | unsignedRanges offset ranges => cases b with
    | unsignedRanges offset' ranges' =>
      have hinj : Function.Injective (Bound.toInt : UInt64 → Int) := fun _ _ h =>
        UInt64.toNat_inj.1 (Int.ofNat.inj h)
      have hranges := joinLimited_inj (Range.endsBefore_text hinj) Range.not_closes_text
        (Nat.le_pred_of_lt ha) (Nat.le_pred_of_lt hb) (hinner h)
      rw [hranges]
      rfl
    | _ => cases hkind
  | table t => cases b with
    | table u =>
      have hentries := joinLimited_inj TableEntry.endsBefore_text TableEntry.not_closes_text
        (Nat.le_pred_of_lt ha) (Nat.le_pred_of_lt hb) (hinner h)
      rw [LookupTable.ext_entries hentries]
    | _ => cases hkind
  | inSet values => cases b with
    | inSet values' =>
      have hmembers := joinLimited_inj endsBefore_signed not_closes_signed
        (Nat.le_pred_of_lt ha) (Nat.le_pred_of_lt hb) (hinner h)
      rw [IntSet.ext_members hmembers]
    | _ => cases hkind
  | notInSet values => cases b with
    | notInSet values' =>
      have hmembers := joinLimited_inj endsBefore_signed not_closes_signed
        (Nat.le_pred_of_lt ha) (Nat.le_pred_of_lt hb) (hinner h)
      rw [IntSet.ext_members hmembers]
    | _ => cases hkind

theorem text_entry_eq_iff {r r' : Register} :
    (entry r).text = (entry r').text ↔ r.text = r'.text := by
  have htext (r : Register) : (entry r).text = "<entry " ++ r.text ++ ">" := rfl
  rw [htext, htext, String.append_left_inj, String.append_right_inj]

/-- Two value sets that are no entry values have the same text exactly if they state the same fact,
provided that their lists fit in memory. An entry value has the text of no other kind of value, and
two entry values have the same text exactly if their registers do. -/
theorem text_faithful :
    (∀ a b : ValueSet, a.kind ≠ .entryValue → b.kind ≠ .entryValue →
      a.count < unsignedLimit → b.count < unsignedLimit →
      (a.text = b.text ↔ (a == b) = true)) ∧
    (∀ (r : Register) (b : ValueSet), b.kind ≠ .entryValue → (entry r).text ≠ b.text) ∧
    ∀ r r' : Register, (entry r).text = (entry r').text ↔ r.text = r'.text := by
  refine ⟨fun a b hentry _ ha hb => ⟨fun h => ?_, fun h => ?_⟩, fun r b hentry h => ?_,
    fun r r' => text_entry_eq_iff⟩
  · exact beq_iff.2 (withoutOffset_eq_of_text_eq hentry ha hb h)
  · exact (observedAlike_of_beq h).format .unbounded
  · exact hentry (kind_eq_of_text_eq h).symm

/-- An input of an entry is not taken for the output of another one, ranges are written alike
whatever their offset is, and a register name that looks like a number is written like it. -/
theorem text_faithful_table :
    (table (.ofEntries [⟨[1], 2⟩, ⟨[], 2⟩])).text ≠ (table (.ofEntries [⟨[1, 2], 2⟩])).text ∧
    (signedRanges 0 [⟨-5, 16, 2, by decide⟩]).text =
      (signedRanges 8 [⟨-5, 16, 2, by decide⟩]).text ∧
    (entry (.name "3")).text ≠ (constant 3).text ∧
    (entry (.name "3")).text = (entry (.index 3)).text := by
  obtain ⟨hfact, hkind, hentry⟩ := text_faithful
  refine ⟨fun h => ?_, ?_, hkind _ _ (by decide), (hentry _ _).2 (by decide)⟩
  · have hbeq := (hfact _ _ (by decide) (by decide) (by decide) (by decide)).1 h
    exact absurd hbeq (by decide)
  · exact (hfact _ _ (by decide) (by decide) (by decide) (by decide)).2 (by decide)

end ValueSet

end ValueLattice
