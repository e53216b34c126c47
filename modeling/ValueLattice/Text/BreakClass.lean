/-
The part a character plays where two characters meet: whether it may be cut off from the character
before it depends on the classes of the two and on little of what comes before.
-/
import ValueLattice.Text.BreakTable

namespace ValueLattice.Text

inductive BreakClass
  /-- No character of the other classes. -/
  | plain
  | carriageReturn
  | lineFeed
  /-- A character that stands alone. -/
  | control
  /-- A mark that extends what it follows. -/
  | extending
  /-- A mark that extends what it follows and keeps conjuncts apart. -/
  | nonJoiner
  /-- A mark that extends what it follows and joins pictographs. -/
  | joiner
  /-- A mark that extends what it follows and joins consonants to a conjunct. -/
  | linker
  /-- A mark with a space of its own that extends what it follows. -/
  | spacing
  /-- A mark that belongs to what follows it. -/
  | prepended
  /-- A letter that opens a syllable. -/
  | leading
  /-- A vowel of a syllable. -/
  | vowel
  /-- A letter that closes a syllable. -/
  | trailing
  /-- A syllable without a closing letter. -/
  | openSyllable
  /-- A syllable with a closing letter. -/
  | closedSyllable
  /-- One half of a flag. -/
  | regional
  | pictograph
  /-- A consonant that forms conjuncts. -/
  | consonant
deriving DecidableEq

namespace BreakClass

/-- The class of an ASCII character. -/
def ofAscii (n : Nat) : BreakClass :=
  if n = 0x0D then carriageReturn
  else if n = 0x0A then lineFeed
  else if n < 0x20 || n = 0x7F then control
  else plain

/-- The classes outside ASCII with the ranges of their characters; a syllable counts as closed. -/
def tables : List (BreakClass × List (Nat × Nat)) :=
  [(control, BreakTable.controls), (extending, BreakTable.extending),
    (nonJoiner, [(0x200C, 0x200C)]), (joiner, [(0x200D, 0x200D)]), (linker, BreakTable.linkers),
    (spacing, BreakTable.spacing), (prepended, BreakTable.prepended),
    (leading, BreakTable.leading), (vowel, BreakTable.vowels), (trailing, BreakTable.trailing),
    (closedSyllable, BreakTable.syllables), (regional, BreakTable.regionals),
    (pictograph, BreakTable.pictographs), (consonant, BreakTable.consonants)]

/-- The class of a character outside ASCII. -/
def ofWide (n : Nat) : BreakClass :=
  match tables.find? fun t => BreakTable.covers t.2 n with
  | none => plain
  | some (closedSyllable, _) => if (n - 0xAC00) % 28 = 0 then openSyllable else closedSyllable
  | some (found, _) => found

/-- The class of a character. -/
def ofChar (c : Char) : BreakClass :=
  if c.toNat < 0x80 then ofAscii c.toNat else ofWide c.toNat

/-- Whether a character of the class shares its cluster with nothing, a line end apart. -/
def isAlone : BreakClass → Bool
  | carriageReturn | lineFeed | control => true
  | _ => false

/-- Whether a character of the class belongs to what it follows. -/
def isAttached : BreakClass → Bool
  | extending | nonJoiner | joiner | linker | spacing => true
  | _ => false

end BreakClass

end ValueLattice.Text
