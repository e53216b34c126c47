/-
Text cut at marks and joined again: `splitWhere` cuts at every mark, `splitOnce` at the first,
`lastSegment` keeps what follows the last `::`, and `joined` writes a mark between two parts.
-/

namespace ValueLattice.Text

/-! ## Cutting -/

/-- The parts between the characters that satisfy `p`; one part more than there are marks. -/
def splitWhere (p : Char → Bool) : List Char → List (List Char)
  | [] => [[]]
  | c :: cs =>
    if p c then [] :: splitWhere p cs
    else match splitWhere p cs with
      | [] => [[c]]
      | w :: ws => (c :: w) :: ws

/-- The parts before and after the first `mark`. -/
def splitOnce (mark : Char) : List Char → Option (List Char × List Char)
  | [] => none
  | c :: cs =>
    if c = mark then some ([], cs)
    else (splitOnce mark cs).map fun p => (c :: p.1, p.2)

theorem eq_append_of_splitOnce {mark : Char} {cs before after : List Char}
    (h : splitOnce mark cs = some (before, after)) : cs = before ++ mark :: after := by
  induction cs generalizing before with
  | nil => simp [splitOnce] at h
  | cons c cs ih =>
    unfold splitOnce at h
    split at h
    · next same => cases h; simp [same]
    · obtain ⟨p, hp, he⟩ := Option.map_eq_some_iff.1 h
      cases he
      rw [ih hp]
      rfl

/-- What follows the last double colon, if there is one. -/
def afterDoubleColon : List Char → Option (List Char)
  | [] => none
  | c :: cs =>
    match afterDoubleColon cs with
    | some rest => some rest
    | none =>
      if c = ':' then
        match cs with
        | ':' :: rest => some rest
        | _ => none
      else none

/-- The last part of a path whose parts are separated by double colons. -/
def lastSegment (path : String) : String :=
  match afterDoubleColon path.toList with
  | some rest => String.ofList rest
  | none => path

/-! ## Joining -/

/-- The parts with `mark` between neighbours. -/
def joined (mark : String) : List String → String
  | [] => ""
  | [s] => s
  | s :: rest => s ++ mark ++ joined mark rest

/-- The list between square brackets, its items separated by a comma and a blank. -/
def bracketed (items : List String) : String :=
  "[" ++ joined ", " items ++ "]"

end ValueLattice.Text
