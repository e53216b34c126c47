/-
Blanks at the ends of a text. `trim` leaves exactly the part that stands between them, so it changes
no text that has none at its ends.
-/
import Mathlib.Data.List.TakeWhile
import ValueLattice.Text.Blank

namespace ValueLattice.Text

variable {cs body : List Char}

theorem Bare.dropWhile_eq (h : Bare body) : body.dropWhile isBlank = body := by
  cases body with
  | nil => rfl
  | cons c body => rw [List.dropWhile_cons, h.head c rfl, if_neg Bool.false_ne_true]

theorem Bare.reverse (h : Bare body) : Bare body.reverse :=
  ⟨by simpa using h.last, by simpa using h.head⟩

theorem head?_dropWhile (cs : List Char) :
    ∀ c ∈ (cs.dropWhile isBlank).head?, isBlank c = false := by
  intro c hc
  have h := List.head?_dropWhile_not isBlank cs
  rw [Option.mem_def.1 hc] at h
  exact h

theorem trim_of_trimmed (h : Trimmed cs body) : trim cs = body := by
  cases h with
  | @between before _ after hbefore hafter hbare =>
    unfold trim
    rw [List.append_assoc, List.dropWhile_append_of_pos hbefore]
    cases body with
    | nil => rw [List.nil_append, List.dropWhile_eq_nil_iff.2 hafter]; rfl
    | cons c body =>
      have hfront : (c :: body ++ after).dropWhile isBlank = c :: body ++ after := by
        rw [List.cons_append, List.dropWhile_cons, hbare.head c rfl, if_neg Bool.false_ne_true]
      rw [hfront, List.reverse_append, List.dropWhile_append_of_pos (by simpa using hafter),
        hbare.reverse.dropWhile_eq, List.reverse_reverse]

/-- A text without the blanks in front is what is left of it and blanks at the end. -/
theorem trim_append_blanks (cs : List Char) :
    trim cs ++ ((cs.dropWhile isBlank).reverse.takeWhile isBlank).reverse =
      cs.dropWhile isBlank := by
  unfold trim
  rw [← List.reverse_append, List.takeWhile_append_dropWhile, List.reverse_reverse]

theorem bare_trim (cs : List Char) : Bare (trim cs) := by
  refine ⟨fun c hc => head?_dropWhile cs c ?_, fun c hc => ?_⟩
  · rw [← trim_append_blanks, List.head?_append, Option.mem_def.1 hc]
    rfl
  · unfold trim at hc
    rw [List.getLast?_reverse] at hc
    exact head?_dropWhile _ c hc

theorem trimmed_trim (cs : List Char) : Trimmed cs (trim cs) := by
  have h : Trimmed (cs.takeWhile isBlank ++ trim cs ++
      ((cs.dropWhile isBlank).reverse.takeWhile isBlank).reverse) (trim cs) :=
    .between (fun c hc => List.mem_takeWhile_imp hc)
      (fun c hc => List.mem_takeWhile_imp (List.mem_reverse.1 hc)) (bare_trim cs)
  rwa [List.append_assoc, trim_append_blanks, List.takeWhile_append_dropWhile] at h

theorem trimmed_iff : Trimmed cs body ↔ trim cs = body :=
  ⟨trim_of_trimmed, fun h => h ▸ trimmed_trim cs⟩

theorem trim_of_bare (h : Bare cs) : trim cs = cs := by
  have hself : Trimmed ([] ++ cs ++ []) cs := .between (by simp) (by simp) h
  rw [List.nil_append, List.append_nil] at hself
  exact trim_of_trimmed hself

theorem trim_trim (cs : List Char) : trim (trim cs) = trim cs :=
  trim_of_bare (bare_trim cs)

theorem trim_of_forall (h : ∀ c ∈ cs, isBlank c = false) : trim cs = cs :=
  trim_of_bare
    ⟨fun c hc => h c (List.mem_of_mem_head? hc), fun c hc => h c (List.mem_of_mem_getLast? hc)⟩

end ValueLattice.Text
