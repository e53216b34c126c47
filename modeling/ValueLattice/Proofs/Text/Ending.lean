/-
Written values that end by themselves. A number ends where its digits end, and a list of such values
ends at a bracket; so a written value and the text after it can be told from both together, and
values that are written alike are the same.
-/
import ValueLattice.Proofs.Numeral.Printed
import ValueLattice.Proofs.Text.Cutting

namespace ValueLattice

namespace Text

variable {α β : Type} {next : List Char → Prop} {cs r s : List Char}

/-! ## Where values end -/

/-- Whether the text does not go on with a hexadecimal digit. -/
def Stops (cs : List Char) : Prop :=
  ∀ c ∈ cs.head?, Numeral.digitValue? 16 c = none

/-- Whether the text goes on with a closing bracket, if at all. -/
def Closes (cs : List Char) : Prop :=
  ∀ c ∈ cs.head?, c = ']' ∨ c = '>'

/-- Whether a written value and the text after it can be told from both together, provided that the
text after it is as `next` demands. -/
def EndsBefore (next : List Char → Prop) (item : α → List Char) : Prop :=
  ∀ ⦃a b : α⦄ ⦃r s : List Char⦄, next r → next s → item a ++ r = item b ++ s → a = b ∧ r = s

theorem stops_nil : Stops [] := by
  intro c hc
  cases hc

theorem closes_nil : Closes [] := by
  intro c hc
  cases hc

theorem stops_cons {c : Char} (hc : Numeral.digitValue? 16 c = none) (cs : List Char) :
    Stops (c :: cs) := by
  rintro d ⟨⟩
  exact hc

theorem closes_cons {c : Char} (hc : c = ']' ∨ c = '>') (cs : List Char) : Closes (c :: cs) := by
  rintro d ⟨⟩
  exact hc

theorem Closes.stops (h : Closes cs) : Stops cs := by
  intro c hc
  rcases h c hc with rfl | rfl <;> rfl

theorem EndsBefore.injective {item : α → String} (h : EndsBefore next fun a => (item a).toList)
    (hnext : next []) : Function.Injective item := by
  intro a b hab
  exact (h hnext hnext (congrArg (fun s => s.toList ++ []) hab)).1

theorem EndsBefore.comp {item : α → List Char} (h : EndsBefore next item) {f : β → α}
    (hf : Function.Injective f) : EndsBefore next fun b => item (f b) := by
  intro a b r s hr hs heq
  obtain ⟨hab, hrest⟩ := h hr hs heq
  exact ⟨hf hab, hrest⟩

/-! ## Lists -/

section Lists

variable {item : α → String} {xs ys : List α}

/-- The items after the first one of a list. -/
def laterItems (item : α → String) (xs : List α) : List Char :=
  xs.flatMap fun a => ',' :: ' ' :: (item a).toList

theorem toList_joined_map_cons (item : α → String) (x : α) (xs : List α) :
    (joined ", " ((x :: xs).map item)).toList = (item x).toList ++ laterItems item xs := by
  rw [List.map_cons, toList_joined_cons, List.flatMap_map, laterItems]
  simp

theorem stops_laterItems (hr : Closes r) : Stops (laterItems item xs ++ r) := by
  cases xs with
  | nil => exact hr.stops
  | cons x xs => exact stops_cons rfl _

/-- Each later item begins with a comma, and what follows the list does not. -/
theorem EndsBefore.laterItems (h : EndsBefore Stops fun a => (item a).toList) :
    EndsBefore Closes (laterItems item) := by
  have hcomma (cs : List Char) : ¬ Closes (',' :: cs) := fun hc => by
    rcases hc ',' rfl with h | h <;> exact absurd h (by decide)
  intro xs ys r s hr hs heq
  -- a comma tells whether there is one more item, and each item ends before the next comma
  induction xs generalizing ys with
  | nil =>
    cases ys with
    | nil => exact ⟨rfl, heq⟩
    | cons y ys =>
      obtain rfl : r = _ := heq
      exact absurd hr (hcomma _)
  | cons x xs ih =>
    cases ys with
    | nil =>
      obtain rfl : _ = s := heq
      exact absurd hs (hcomma _)
    | cons y ys =>
      simp only [Text.laterItems, List.flatMap_cons, List.cons_append, List.append_assoc,
        List.cons.injEq, true_and] at heq
      obtain ⟨rfl, hrest⟩ := h (stops_laterItems hr) (stops_laterItems hs) heq
      obtain ⟨rfl, rfl⟩ := ih hrest
      exact ⟨rfl, rfl⟩

/-- A list ends where a bracket closes it, if no item begins with such a bracket. -/
theorem EndsBefore.joined (h : EndsBefore Stops fun a => (item a).toList)
    (hopen : ∀ a cs, ¬ Closes ((item a).toList ++ cs)) :
    EndsBefore Closes fun xs : List α => (joined ", " (xs.map item)).toList := by
  intro xs ys r s hr hs heq
  cases xs with
  | nil =>
    cases ys with
    | nil => exact ⟨rfl, heq⟩
    | cons y ys =>
      simp only [toList_joined_map_cons, List.append_assoc] at heq
      obtain rfl : r = _ := heq
      exact absurd hr (hopen y _)
  | cons x xs =>
    cases ys with
    | nil =>
      simp only [toList_joined_map_cons, List.append_assoc] at heq
      obtain rfl : _ = s := heq
      exact absurd hs (hopen x _)
    | cons y ys =>
      simp only [toList_joined_map_cons, List.append_assoc] at heq
      obtain ⟨rfl, hrest⟩ := h (stops_laterItems hr) (stops_laterItems hs) heq
      obtain ⟨rfl, rfl⟩ := h.laterItems hr hs hrest
      exact ⟨rfl, rfl⟩

theorem toList_bracketed (items : List String) :
    (bracketed items).toList = '[' :: ((Text.joined ", " items).toList ++ [']']) := by
  simp [bracketed]

/-- A list between brackets ends by itself. -/
theorem EndsBefore.bracketed (h : EndsBefore Stops fun a => (item a).toList)
    (hopen : ∀ a cs, ¬ Closes ((item a).toList ++ cs)) :
    EndsBefore (fun _ => True) fun xs : List α => (bracketed (xs.map item)).toList := by
  intro xs ys r s _ _ heq
  simp only [toList_bracketed, List.cons_append, List.append_assoc, List.nil_append,
    List.cons.injEq, true_and] at heq
  obtain ⟨hsame, hrest⟩ :=
    h.joined hopen (closes_cons (.inl rfl) _) (closes_cons (.inl rfl) _) heq
  exact ⟨hsame, (List.cons.inj hrest).2⟩

end Lists

end Text

namespace Numeral

open Text (EndsBefore Stops)

theorem toDigits_injective {radix : Nat} (hradix : 1 < radix) (h16 : radix ≤ 16) :
    Function.Injective (Nat.toDigits radix) := by
  intro m n h
  have hm := readNumber_toDigits hradix h16 (Nat.lt_succ_of_le (Nat.le_max_left m n))
  have hn := readNumber_toDigits hradix h16 (Nat.lt_succ_of_le (Nat.le_max_right m n))
  rw [h, hn] at hm
  exact (Except.ok.inj hm).symm

/-- What is written with digits alone ends where the digits end. -/
theorem endsBefore_of_digits {α : Type} {item : α → List Char}
    (hdigits : ∀ a, ∀ c ∈ item a, (digitValue? 16 c).isSome = true)
    (hitem : Function.Injective item) : EndsBefore Stops item := by
  -- the value is written with the longest front that consists of digits
  have htake (a : α) {r : List Char} (hr : Stops r) :
      (item a ++ r).takeWhile (fun c => (digitValue? 16 c).isSome) = item a := by
    rw [List.takeWhile_append_of_pos (hdigits a)]
    cases r with
    | nil => simp
    | cons c cs => simp [hr c rfl]
  intro a b r s hr hs heq
  have hsame : item a = item b := by rw [← htake a hr, heq, htake b hs]
  rw [hsame] at heq
  exact ⟨hitem hsame, List.append_cancel_left heq⟩

theorem endsBefore_toDigits {radix : Nat} (hradix : 1 < radix) (h16 : radix ≤ 16) :
    EndsBefore Stops (Nat.toDigits radix) :=
  endsBefore_of_digits (fun _ => forall_toDigits hradix h16 (by decide))
    (toDigits_injective hradix h16)

theorem endsBefore_hex : EndsBefore Stops fun n => (hex n).toList := by
  intro m n r s hr hs heq
  simp only [toList_hex, List.cons_append, List.cons.injEq, true_and] at heq
  exact endsBefore_toDigits (by decide) (by decide) hr hs heq

theorem endsBefore_decimalNat : EndsBefore Stops fun n => (decimalNat n).toList := by
  simp only [toList_decimalNat]
  exact endsBefore_toDigits (by decide) (by decide)

/-- A minus sign tells the negative numbers if no magnitude is written with one. -/
theorem endsBefore_withSign {magnitude : Nat → List Char} (h : EndsBefore Stops magnitude)
    (hminus : ∀ n r s, magnitude n ++ r ≠ '-' :: s) :
    EndsBefore Stops fun x : Int =>
      if x < 0 then '-' :: magnitude x.natAbs else magnitude x.natAbs := by
  intro m n r s hr hs heq
  dsimp only at heq
  split at heq
  · next hm =>
    split at heq
    · next hn =>
      obtain ⟨habs, hrest⟩ := h hr hs (List.cons.inj heq).2
      exact ⟨by omega, hrest⟩
    · exact absurd heq.symm (hminus _ _ _)
  · next hm =>
    split at heq
    · exact absurd heq (hminus _ _ _)
    · next hn =>
      obtain ⟨habs, hrest⟩ := h hr hs heq
      exact ⟨by omega, hrest⟩

theorem endsBefore_signedHex : EndsBefore Stops fun n => (signedHex n).toList := by
  simp only [toList_signedHex]
  refine endsBefore_withSign endsBefore_hex fun n r s heq => ?_
  rw [toList_hex] at heq
  exact absurd (List.cons.inj heq).1 (by decide)

theorem endsBefore_decimal : EndsBefore Stops fun n => (decimal n).toList := by
  simp only [toList_decimal]
  refine endsBefore_withSign endsBefore_decimalNat fun n r s heq => ?_
  obtain ⟨c, cs, hcs, hdigit⟩ := exists_toList_decimalNat n
  rw [hcs] at heq
  obtain rfl := (List.cons.inj heq).1
  exact absurd hdigit (by decide)

end Numeral

end ValueLattice
