/-
Text cut where it was put together. Parts without a mark that are joined by it are cut apart again,
and the words of a line are the words that were laid out on it, whatever blanks stand between them
and at its ends. The last part of a path is what stands behind its last double colon.
-/
import ValueLattice.Text.Blank

namespace ValueLattice.Text

variable {p : Char → Bool} {c mark : Char} {w cs before : List Char}

/-! ## Parts -/

theorem splitWhere_ne_nil (p : Char → Bool) (cs : List Char) : splitWhere p cs ≠ [] := by
  cases cs with
  | nil => exact List.cons_ne_nil _ _
  | cons c cs =>
    unfold splitWhere
    split
    · exact List.cons_ne_nil _ _
    · split <;> exact List.cons_ne_nil _ _

theorem splitWhere_cons_of_not (hc : p c = false) (cs : List Char) :
    ∃ w ws, splitWhere p cs = w :: ws ∧ splitWhere p (c :: cs) = (c :: w) :: ws := by
  obtain ⟨w, ws, h⟩ := List.exists_cons_of_ne_nil (splitWhere_ne_nil p cs)
  refine ⟨w, ws, h, ?_⟩
  rw [splitWhere, hc, if_neg Bool.false_ne_true, h]

theorem splitWhere_of_forall (hw : ∀ c ∈ w, p c = false) : splitWhere p w = [w] := by
  induction w with
  | nil => rfl
  | cons c w ih =>
    obtain ⟨v, vs, hrest, h⟩ := splitWhere_cons_of_not (hw c List.mem_cons_self) w
    rw [ih fun d hd => hw d (List.mem_cons_of_mem _ hd)] at hrest
    cases hrest
    exact h

/-- The first mark ends the first part. -/
theorem splitWhere_append (hw : ∀ c ∈ w, p c = false) (hc : p c = true) (cs : List Char) :
    splitWhere p (w ++ c :: cs) = w :: splitWhere p cs := by
  induction w with
  | nil => rw [List.nil_append, splitWhere, if_pos hc]
  | cons d w ih =>
    obtain ⟨v, vs, hrest, h⟩ := splitWhere_cons_of_not (hw d List.mem_cons_self) (w ++ c :: cs)
    rw [ih fun e he => hw e (List.mem_cons_of_mem _ he)] at hrest
    cases hrest
    exact h

/-- No part holds a mark. -/
theorem forall_of_mem_splitWhere (h : w ∈ splitWhere p cs) : ∀ c ∈ w, p c = false := by
  induction cs generalizing w with
  | nil =>
    obtain rfl := List.mem_singleton.1 h
    intro c hc
    cases hc
  | cons d cs ih =>
    by_cases hd : p d = true
    · rw [splitWhere, if_pos hd] at h
      rcases List.mem_cons.1 h with rfl | h
      · intro c hc
        cases hc
      · exact ih h
    · rw [Bool.not_eq_true] at hd
      obtain ⟨v, vs, hrest, hsplit⟩ := splitWhere_cons_of_not hd cs
      rw [hsplit] at h
      rw [hrest] at ih
      rcases List.mem_cons.1 h with rfl | h
      · intro c hc
        rcases List.mem_cons.1 hc with rfl | hc
        · exact hd
        · exact ih List.mem_cons_self c hc
      · exact ih (List.mem_cons_of_mem _ h)

/-- What stands before the first mark, and what stands after it. -/
theorem splitOnce_append (hbefore : mark ∉ before) (after : List Char) :
    splitOnce mark (before ++ mark :: after) = some (before, after) := by
  induction before with
  | nil => rw [List.nil_append, splitOnce, if_pos rfl]
  | cons c before ih =>
    have hc : c ≠ mark := fun h => hbefore (h ▸ List.mem_cons_self)
    rw [List.cons_append, splitOnce, if_neg hc, ih fun h => hbefore (List.mem_cons_of_mem _ h)]
    rfl

/-! ## Joined parts -/

/-- After the first of several parts, each other one follows with the mark in front. -/
theorem toList_joined_cons (mark s : String) (rest : List String) :
    (joined mark (s :: rest)).toList =
      s.toList ++ rest.flatMap fun t => mark.toList ++ t.toList := by
  induction rest generalizing s with
  | nil => simp [joined]
  | cons t rest ih => simp [joined, ih t]

/-- One more part stands last, with a mark between it and the others. -/
theorem joined_concat {mark : String} {parts : List String} (hne : parts ≠ []) (t : String) :
    joined mark (parts ++ [t]) = joined mark parts ++ mark ++ t := by
  obtain ⟨s, rest, rfl⟩ := List.exists_cons_of_ne_nil hne
  rw [← String.toList_inj, String.toList_append, String.toList_append, List.cons_append,
    toList_joined_cons, toList_joined_cons]
  simp

theorem splitWhere_joined {mark : String} {m : Char} (hmark : mark.toList = [m])
    {parts : List String} (hne : parts ≠ [])
    (hparts : ∀ s ∈ parts, ∀ c ∈ s.toList, c ≠ m) :
    splitWhere (· == m) (joined mark parts).toList = parts.map String.toList := by
  obtain ⟨s, rest, rfl⟩ := List.exists_cons_of_ne_nil hne
  rw [toList_joined_cons]
  clear hne
  induction rest generalizing s with
  | nil =>
    have hs : ∀ c ∈ s.toList, (c == m) = false := by
      simpa using hparts s List.mem_cons_self
    simp [splitWhere_of_forall hs]
  | cons t rest ih =>
    have hs : ∀ c ∈ s.toList, (c == m) = false := by
      simpa using hparts s List.mem_cons_self
    rw [List.flatMap_cons, hmark, List.append_assoc, List.singleton_append,
      splitWhere_append hs (beq_self_eq_true m), ← hmark,
      ih t fun u hu => hparts u (List.mem_cons_of_mem _ hu)]
    rfl

/-! ## Words -/

/-- A word: some characters, none of them blank. -/
def IsWord (w : List Char) : Prop :=
  w ≠ [] ∧ ∀ c ∈ w, isBlank c = false

/-- The words stand on the line in this order, with one or more blanks between neighbours, and with
any blanks before the first and after the last of them. -/
inductive LaidOut : List (List Char) → List Char → Prop
  | nothing : LaidOut [] []
  | blank {c : Char} {ws : List (List Char)} {line : List Char} :
      isBlank c = true → LaidOut ws line → LaidOut ws (c :: line)
  | last (w : List Char) : LaidOut [w] w
  | word {c : Char} {ws : List (List Char)} {line : List Char} (w : List Char) :
      isBlank c = true → LaidOut ws line → LaidOut (w :: ws) (w ++ c :: line)

theorem IsWord.append_cons (hw : IsWord w) (hc : isBlank c = false)
    (hcs : ∀ d ∈ cs, isBlank d = false) : IsWord (w ++ c :: cs) := by
  refine ⟨by simp, fun d hd => ?_⟩
  rcases List.mem_append.1 hd with hd | hd
  · exact hw.2 d hd
  · rcases List.mem_cons.1 hd with rfl | hd
    · exact hc
    · exact hcs d hd

theorem words_blank (hc : isBlank c = true) (line : List Char) :
    words (c :: line) = words line := by
  rw [words, splitWhere, if_pos hc]
  rfl

theorem words_last (hw : IsWord w) : words w = [w] := by
  rw [words, splitWhere_of_forall hw.2]
  simp [hw.1]

theorem words_word (hw : IsWord w) (hc : isBlank c = true) (line : List Char) :
    words (w ++ c :: line) = w :: words line := by
  rw [words, splitWhere_append hw.2 hc]
  simp [words, hw.1]

theorem words_of_laidOut {ws : List (List Char)} {line : List Char} (h : LaidOut ws line)
    (hws : ∀ w ∈ ws, IsWord w) : words line = ws := by
  induction h with
  | nothing => rfl
  | blank hc _ ih => rw [words_blank hc, ih hws]
  | last w => exact words_last (hws w List.mem_cons_self)
  | word w hc _ ih =>
    rw [words_word (hws w List.mem_cons_self) hc,
      ih fun v hv => hws v (List.mem_cons_of_mem _ hv)]

theorem isWord_of_mem_words (h : w ∈ words cs) : IsWord w := by
  obtain ⟨hmem, hne⟩ := List.mem_filter.1 h
  exact ⟨by simpa using hne, forall_of_mem_splitWhere hmem⟩

/-! ## The last part of a path -/

section LastPart

variable {rest : List Char} {path name : String}

/-- Whether a double colon occurs. -/
def HasColons (cs : List Char) : Prop :=
  [':', ':'] <:+: cs

/-- Whether a text stands behind the last double colon of a path. -/
def BehindColons (cs rest : List Char) : Prop :=
  ∃ before, cs = before ++ ':' :: ':' :: rest ∧ ¬ HasColons (':' :: rest)

theorem hasColons_cons_iff {c : Char} :
    HasColons (c :: cs) ↔ (c = ':' ∧ ∃ rest, cs = ':' :: rest) ∨ HasColons cs := by
  unfold HasColons
  rw [List.infix_cons_iff, List.cons_prefix_cons, eq_comm]
  refine or_congr_left (and_congr_right fun _ => ?_)
  exact ⟨fun ⟨rest, h⟩ => ⟨rest, h.symm⟩, fun ⟨rest, h⟩ => ⟨rest, h.symm⟩⟩

theorem afterDoubleColon_cons_of_some {c : Char} (h : afterDoubleColon cs = some rest) :
    afterDoubleColon (c :: cs) = some rest := by
  unfold afterDoubleColon
  rw [h]

theorem afterDoubleColon_eq_none (h : ¬ HasColons cs) : afterDoubleColon cs = none := by
  induction cs with
  | nil => rfl
  | cons c cs ih =>
    rw [hasColons_cons_iff, not_or] at h
    unfold afterDoubleColon
    simp only [ih h.2]
    split
    · next hc =>
      split
      · next rest => exact absurd ⟨hc, rest, rfl⟩ h.1
      · rfl
    · rfl

/-- What stands behind the last double colon is found whatever stands in front of it. -/
theorem afterDoubleColon_of_behind (h : BehindColons cs rest) :
    afterDoubleColon cs = some rest := by
  obtain ⟨before, rfl, hrest⟩ := h
  induction before with
  | nil =>
    rw [List.nil_append, afterDoubleColon]
    simp only [afterDoubleColon_eq_none hrest, if_true]
  | cons c before ih => exact afterDoubleColon_cons_of_some ih

theorem exists_behindColons (h : HasColons cs) : ∃ rest, BehindColons cs rest := by
  induction cs with
  | nil => simp [HasColons] at h
  | cons c cs ih =>
    by_cases hlater : HasColons cs
    · obtain ⟨rest, before, hcs, hrest⟩ := ih hlater
      exact ⟨rest, c :: before, by rw [hcs]; rfl, hrest⟩
    · obtain ⟨rfl, rest, rfl⟩ := (hasColons_cons_iff.1 h).resolve_right hlater
      exact ⟨rest, [], rfl, hlater⟩

/-- The last part of a path is what stands behind its last double colon, and the whole path if there
is none. -/
theorem lastSegment_eq_iff : lastSegment path = name ↔
    BehindColons path.toList name.toList ∨ ¬ HasColons path.toList ∧ name = path := by
  unfold lastSegment
  constructor
  · intro h
    by_cases hcolons : HasColons path.toList
    · obtain ⟨rest, hrest⟩ := exists_behindColons hcolons
      rw [afterDoubleColon_of_behind hrest] at h
      rw [← h, String.toList_ofList]
      exact .inl hrest
    · rw [afterDoubleColon_eq_none hcolons] at h
      exact .inr ⟨hcolons, h.symm⟩
  · rintro (h | ⟨hcolons, rfl⟩)
    · rw [afterDoubleColon_of_behind h]
      exact String.ofList_toList
    · rw [afterDoubleColon_eq_none hcolons]

end LastPart

end ValueLattice.Text
