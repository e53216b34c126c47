/-
The lines that show a wire value. Every field is written so that it ends by itself, and the lines of
the ranges, of the entries and of the values begin with different words. So the lines tell the whole
wire value, and the kind that is named beside its state.
-/
import ValueLattice.Proofs.Numeral.Shown
import ValueLattice.Proofs.Text.Ending
import ValueLattice.Shell.Session
import Mathlib.Data.List.Basic

namespace ValueLattice

open Text (EndsBefore Stops Closes)

/-! ## Fields -/

namespace Numeral

theorem endsBefore_bitsHex : EndsBefore Stops fun v : Int64 => (bitsHex v).toList :=
  endsBefore_hex.comp fun v w h => by
    rw [← v.toInt64_toUInt64, UInt64.toNat_inj.1 h, w.toInt64_toUInt64]

/-- The digits of a number with zeros in front. -/
def wideDigits (n : Nat) : List Char :=
  List.replicate (16 - (Nat.toDigits 16 n).length) '0' ++ Nat.toDigits 16 n

theorem toList_hexWide (n : Nat) : (hexWide n).toList = '0' :: 'x' :: wideDigits n := by
  simp [hexWide, wideDigits]

theorem forall_wideDigits (n : Nat) : ∀ c ∈ wideDigits n, (digitValue? 16 c).isSome = true := by
  have hdigits : ∀ c ∈ Nat.toDigits 16 n, (digitValue? 16 c).isSome = true :=
    forall_toDigits (by decide) (by decide) (by decide)
  intro c hc
  rcases List.mem_append.1 hc with hc | hc
  · rw [List.eq_of_mem_replicate hc]; rfl
  · exact hdigits c hc

/-- Zeros in front do not matter, since the text can be read back. -/
theorem wideDigits_injective : Function.Injective fun u : UInt64 => wideDigits u.toNat := by
  have hread (u : UInt64) : readUnsigned (hexWide u.toNat) = .ok u :=
    readUnsigned_of_literal (.hex (hexLiteral_hexWide _))
  intro u w h
  have hdigits : wideDigits u.toNat = wideDigits w.toNat := h
  have hsame : hexWide u.toNat = hexWide w.toNat :=
    String.toList_injective (by rw [toList_hexWide, hdigits, toList_hexWide])
  exact Except.ok.inj ((hread u).symm.trans (hsame ▸ hread w))

theorem endsBefore_hexWide : EndsBefore Stops fun u : UInt64 => (hexWide u.toNat).toList := by
  intro u w r s hr hs heq
  simp only [toList_hexWide, List.cons_append, List.cons.injEq, true_and] at heq
  exact endsBefore_of_digits (fun u => forall_wideDigits u.toNat) wideDigits_injective hr hs heq

theorem endsBefore_decimalWord : EndsBefore Stops fun v : Int64 => (decimal v.toInt).toList :=
  endsBefore_decimal.comp fun _ _ => Int64.toInt_inj.1

theorem not_closes_decimal (n : Int) (cs : List Char) : ¬ Closes ((decimal n).toList ++ cs) := by
  intro h
  obtain ⟨c, ds, hds, hdigit⟩ := exists_toList_decimalNat n.natAbs
  rw [toList_decimal, hds] at h
  split at h
  · exact absurd (h '-' rfl) (by decide)
  · rcases h c rfl with rfl | rfl
    · exact absurd hdigit (by decide)
    · exact absurd hdigit (by decide)

end Numeral

theorem Kind.text_injective : Function.Injective Kind.text := by
  intro k l h
  cases k <;> cases l <;> first | rfl | exact absurd h (by decide)

namespace ShellSession

theorem endsBefore_decimalList :
    EndsBefore (fun _ => True) fun vs : List Int64 => (decimalList vs).toList :=
  Numeral.endsBefore_decimalWord.bracketed fun v => Numeral.not_closes_decimal v.toInt

/-! ## Lines -/

theorem toList_stateLine (state : UInt32) (kind : Kind) : (stateLine state kind).toList =
    "state: ".toList ++ ((Numeral.decimalNat state.toNat).toList ++
      ' ' :: '(' :: (kind.text.toList ++ [')'])) := by
  simp [stateLine]

theorem toList_rangeLine (r : WireRange) : (rangeLine r).toList =
    "  range: ".toList ++ ((Numeral.hexWide r.start.toNat).toList ++
      ' ' :: ((Numeral.hexWide r.stop.toNat).toList ++
        ' ' :: 's' :: 't' :: 'e' :: 'p' :: ' ' :: (Numeral.hex r.step.toNat).toList)) := by
  simp [rangeLine]

theorem toList_entryLine (e : TableEntry) : (entryLine e).toList =
    "  entry: ".toList ++ ((decimalList e.inputs).toList ++
      ' ' :: '-' :: '>' :: ' ' :: (Numeral.bitsHex e.output).toList) := by
  simp [entryLine]

theorem stateLine_inj {state state' : UInt32} {kind kind' : Kind}
    (h : stateLine state kind = stateLine state' kind') : state = state' ∧ kind = kind' := by
  have heq := congrArg String.toList h
  simp only [toList_stateLine] at heq
  obtain ⟨hstate, heq⟩ := Numeral.endsBefore_decimalNat (Text.stops_cons rfl _)
    (Text.stops_cons rfl _) (List.append_cancel_left heq)
  simp only [List.cons.injEq, true_and] at heq
  have hkind := String.toList_injective (List.append_cancel_right heq)
  exact ⟨UInt32.toNat_inj.1 hstate, Kind.text_injective hkind⟩

theorem rangeLine_injective : Function.Injective rangeLine := by
  intro a b h
  have heq := congrArg String.toList h
  simp only [toList_rangeLine] at heq
  obtain ⟨hstart, heq⟩ := Numeral.endsBefore_hexWide (Text.stops_cons rfl _)
    (Text.stops_cons rfl _) (List.append_cancel_left heq)
  obtain ⟨hstop, heq⟩ := Numeral.endsBefore_hexWide (Text.stops_cons rfl _)
    (Text.stops_cons rfl _) (List.cons.inj heq).2
  simp only [List.cons.injEq, true_and] at heq
  have hstep := Numeral.endsBefore_hex.injective Text.stops_nil (String.toList_injective heq)
  obtain ⟨start, stop, step⟩ := a
  obtain ⟨start', stop', step'⟩ := b
  obtain rfl : start = start' := hstart
  obtain rfl : stop = stop' := hstop
  obtain rfl : step = step' := UInt64.toNat_inj.1 hstep
  rfl

theorem entryLine_injective : Function.Injective entryLine := by
  intro a b h
  have heq := congrArg String.toList h
  simp only [toList_entryLine] at heq
  obtain ⟨hinputs, heq⟩ := endsBefore_decimalList trivial trivial (List.append_cancel_left heq)
  simp only [List.cons.injEq, true_and] at heq
  have houtput := Numeral.endsBefore_bitsHex.injective Text.stops_nil (String.toList_injective heq)
  obtain ⟨inputs, output⟩ := a
  obtain ⟨inputs', output'⟩ := b
  obtain rfl : inputs = inputs' := hinputs
  obtain rfl : output = output' := houtput
  rfl

theorem valueLines_injective : Function.Injective valueLines := by
  intro vs ws h
  unfold valueLines at h
  split at h
  · next hvs =>
    split at h
    · next hws => rw [List.isEmpty_iff.1 hvs, List.isEmpty_iff.1 hws]
    · cases h
  · split at h
    · cases h
    · have heq := congrArg String.toList (List.cons.inj h).1
      simp only [String.toList_append] at heq
      exact endsBefore_decimalList.injective trivial
        (String.toList_injective (List.append_cancel_left heq))

/-! ## The three parts below the head -/

/-- The lines whose first word, after two blanks, begins with a given letter. -/
def beginning (c : Char) (lines : List String) : List String :=
  lines.filter fun line => line.toList[2]? == some c

theorem beginning_append (c : Char) (xs ys : List String) :
    beginning c (xs ++ ys) = beginning c xs ++ beginning c ys :=
  List.filter_append ..

theorem beginning_of_forall {c : Char} {lines : List String}
    (h : ∀ line ∈ lines, line.toList[2]? = some c) (d : Char) :
    beginning d lines = if c = d then lines else [] := by
  unfold beginning
  split
  · next same => exact List.filter_eq_self.2 fun line hline => by simp [h line hline, same]
  · next hne => exact List.filter_eq_nil_iff.2 fun line hline => by simp [h line hline, hne]

/-- The lines below the head fall into those of ranges, of entries and of values. -/
theorem beginning_wireLines (raw : WireValueSet) (d : Char) :
    beginning d (raw.ranges.map rangeLine ++ raw.table.map entryLine ++ valueLines raw.values) =
      (if 'r' = d then raw.ranges.map rangeLine else []) ++
        (if 'e' = d then raw.table.map entryLine else []) ++
          (if 'v' = d then valueLines raw.values else []) := by
  have hranges : ∀ line ∈ raw.ranges.map rangeLine, line.toList[2]? = some 'r' := by
    intro line hline
    obtain ⟨r, -, rfl⟩ := List.mem_map.1 hline
    simp [rangeLine]
  have hentries : ∀ line ∈ raw.table.map entryLine, line.toList[2]? = some 'e' := by
    intro line hline
    obtain ⟨e, -, rfl⟩ := List.mem_map.1 hline
    simp [entryLine]
  have hvalues : ∀ line ∈ valueLines raw.values, line.toList[2]? = some 'v' := by
    intro line hline
    unfold valueLines at hline
    split at hline
    · cases hline
    · rw [List.mem_singleton.1 hline]
      simp
  rw [beginning_append, beginning_append, beginning_of_forall hranges,
    beginning_of_forall hentries, beginning_of_forall hvalues]

/-! ## The wire value -/

/-- A wire value can be told from the lines that show it. -/
theorem wireLines_inj {raw raw' : WireValueSet} {kind kind' : Kind}
    (h : wireLines raw kind = wireLines raw' kind') : raw = raw' ∧ kind = kind' := by
  unfold wireLines at h
  simp only [List.append_assoc, List.cons_append, List.nil_append, List.cons.injEq] at h
  obtain ⟨hstate, hvalue, hcount, hparts⟩ := h
  obtain ⟨hstate, hkind⟩ := stateLine_inj hstate
  have hvalue := Numeral.endsBefore_bitsHex.injective Text.stops_nil
    ((String.append_right_inj _).1 hvalue)
  have hcount := Numeral.endsBefore_decimalNat.injective Text.stops_nil
    ((String.append_right_inj _).1 hcount)
  simp only [← List.append_assoc] at hparts
  have hpart (d : Char) := congrArg (beginning d) hparts
  simp only [beginning_wireLines] at hpart
  have hranges : raw.ranges.map rangeLine = raw'.ranges.map rangeLine := by simpa using hpart 'r'
  have htable : raw.table.map entryLine = raw'.table.map entryLine := by simpa using hpart 'e'
  have hvalues : valueLines raw.values = valueLines raw'.values := by simpa using hpart 'v'
  refine ⟨?_, hkind⟩
  obtain ⟨state, value, ranges, table, values, count⟩ := raw
  obtain ⟨state', value', ranges', table', values', count'⟩ := raw'
  obtain rfl : state = state' := hstate
  obtain rfl : value = value' := hvalue
  obtain rfl : count = count' := hcount
  obtain rfl : ranges = ranges' := List.map_injective_iff.2 rangeLine_injective hranges
  obtain rfl : table = table' := List.map_injective_iff.2 entryLine_injective htable
  obtain rfl : values = values' := valueLines_injective hvalues
  rfl

example : wireLines ⟨7, 0, [⟨0, 31, 4⟩], [⟨[1, -2], 5⟩], [-3], 1⟩ .signedRange =
    ["state: 7 (signed range)", "value: 0x0", "count: 1",
      "  range: 0x0000000000000000 0x000000000000001f step 0x4", "  entry: [1, -2] -> 0x5",
      "  values: [-3]"] := by
  decide

end ShellSession

end ValueLattice
