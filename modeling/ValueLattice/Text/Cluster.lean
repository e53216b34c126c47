/-
Text cut into clusters, the runs of characters that a reader takes for one: a letter with its
marks, a written syllable, a flag, a joined pictograph.
-/
import ValueLattice.Text.BreakClass

namespace ValueLattice.Text

/-! ## What comes before a character -/

/-- How far the characters so far have got with a conjunct of consonants. -/
inductive Conjunct
  | absent
  /-- They end in a consonant and marks on it. -/
  | begun
  /-- A linker is among the marks. -/
  | linked
deriving DecidableEq

/-- How far the characters so far have got with a joined pictograph. -/
inductive Picture
  | absent
  /-- They end in a pictograph and marks on it. -/
  | begun
  /-- A joiner follows the marks. -/
  | joined
deriving DecidableEq

/-- What the characters so far say about a cut after them. -/
structure CutContext where
  last : BreakClass := .control
  conjunct : Conjunct := .absent
  picture : Picture := .absent
  /-- Whether they end in an odd number of halves of flags. -/
  halfFlag : Bool := false

def Conjunct.step (k : Conjunct) (next : BreakClass) : Conjunct :=
  match next, k with
  | .consonant, _ => .begun
  | .linker, .begun => .linked
  | .linker, .linked => .linked
  | .extending, k => k
  | .joiner, k => k
  | _, _ => .absent

def Picture.step (p : Picture) (next : BreakClass) : Picture :=
  match next, p with
  | .pictograph, _ => .begun
  | .extending, .begun => .begun
  | .nonJoiner, .begun => .begun
  | .linker, .begun => .begun
  | .joiner, .begun => .joined
  | _, _ => .absent

/-- What the characters say with one more of the given class. -/
def CutContext.step (k : CutContext) (next : BreakClass) : CutContext where
  last := next
  conjunct := k.conjunct.step next
  picture := k.picture.step next
  halfFlag := next = .regional && !k.halfFlag

/-- Whether a syllable that has come to the first class goes on with the second. -/
def syllableGoesOn : BreakClass → BreakClass → Bool
  | .leading, .leading | .leading, .vowel | .leading, .openSyllable | .leading, .closedSyllable
  | .openSyllable, .vowel | .openSyllable, .trailing | .vowel, .vowel | .vowel, .trailing
  | .closedSyllable, .trailing | .trailing, .trailing => true
  | _, _ => false

/-- Whether a character of the given class goes into the cluster of the characters before it. -/
def CutContext.keeps (k : CutContext) (next : BreakClass) : Bool :=
  if k.last.isAlone || next.isAlone then k.last = .carriageReturn && next = .lineFeed
  else
    next.isAttached || k.last = .prepended || syllableGoesOn k.last next ||
      (next = .consonant && k.conjunct = .linked) ||
      (next = .pictograph && k.picture = .joined) ||
      (next = .regional && k.halfFlag)

/-! ## Clusters -/

/-- What belongs to the cluster of the characters before, and then the clusters that follow. -/
def clustersAfter (k : CutContext) : List Char → List Char × List (List Char)
  | [] => ([], [])
  | c :: cs =>
    let next := BreakClass.ofChar c
    let (rest, following) := clustersAfter (k.step next) cs
    if k.keeps next then (c :: rest, following) else ([], (c :: rest) :: following)

/-- The clusters of a text, in order; none is empty. -/
def clusters (cs : List Char) : List (List Char) :=
  (clustersAfter {} cs).2

end ValueLattice.Text
