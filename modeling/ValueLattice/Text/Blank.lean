/-
Blank characters, and text cut at them. Blanks are the characters with the White_Space property;
`trim` removes them at both ends and `words` lists the maximal runs of other characters.
-/
import ValueLattice.Text.Split

namespace ValueLattice.Text

/-- The characters with the White_Space property. -/
def isBlank (c : Char) : Bool :=
  let n := c.toNat
  (9 ≤ n && n ≤ 13) || n == 0x20 || n == 0x85 || n == 0xa0 || n == 0x1680 ||
    (0x2000 ≤ n && n ≤ 0x200a) || n == 0x2028 || n == 0x2029 || n == 0x202f || n == 0x205f ||
    n == 0x3000

/-- The text without the blanks at its two ends. -/
def trim (cs : List Char) : List Char :=
  ((cs.dropWhile isBlank).reverse.dropWhile isBlank).reverse

/-- A text that neither begins nor ends with a blank. -/
structure Bare (body : List Char) : Prop where
  head : ∀ c ∈ body.head?, isBlank c = false
  last : ∀ c ∈ body.getLast?, isBlank c = false

/-- `body` stands in a text between blanks, and all blanks at its ends are left out. -/
inductive Trimmed : List Char → List Char → Prop
  | between {before body after : List Char} : (∀ c ∈ before, isBlank c = true) →
      (∀ c ∈ after, isBlank c = true) → Bare body → Trimmed (before ++ body ++ after) body

/-- The maximal runs of characters that are not blank, in order. -/
def words (cs : List Char) : List (List Char) :=
  (splitWhere isBlank cs).filter (fun w => !w.isEmpty)

end ValueLattice.Text
