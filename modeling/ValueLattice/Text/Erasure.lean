/-
Erasures in a line of input: a backspace takes back the cluster before it. The bytes of a cluster
are counted in one byte, so of a cluster of 256 bytes or more only the remainder is taken back.
-/
import ValueLattice.Text.Cluster

namespace ValueLattice.Text

/-- The character that takes back a cluster. -/
def backspace : Char := '\x08'

/-- The number of bytes of a text. -/
def byteSize : List Char → Nat
  | [] => 0
  | c :: cs => c.utf8Size + byteSize cs

/-- A line as far as it has been read. -/
structure Draft where
  /-- The text that stands, last character first. -/
  reversed : List Char := []
  /-- The byte counts of the clusters that stand, last cluster first. -/
  sizes : List UInt8 := []

/-- A text given last character first, without its last `n` bytes; nothing if that cuts a
character. -/
def withoutBytes : Nat → List Char → Option (List Char)
  | 0, cs => some cs
  | _ + 1, [] => none
  | n + 1, c :: cs => if c.utf8Size ≤ n + 1 then withoutBytes (n + 1 - c.utf8Size) cs else none

/-- Takes back the last cluster, if there is one, by its byte count; nothing if that cuts a
character. -/
def Draft.erase? (d : Draft) : Option Draft :=
  match d.sizes with
  | [] => some d
  | n :: sizes => (withoutBytes n.toNat d.reversed).map fun cs => ⟨cs, sizes⟩

/-- The draft with one cluster more. -/
def Draft.push (d : Draft) (cluster : List Char) : Draft :=
  ⟨cluster.reverse ++ d.reversed, UInt8.ofNat (byteSize cluster) :: d.sizes⟩

/-- Reads one cluster. -/
def Draft.read? (d : Draft) (cluster : List Char) : Option Draft :=
  if cluster = [backspace] then d.erase? else some (d.push cluster)

/-- The text with its erasures carried out; nothing if one cuts a character. -/
def erased? (cs : List Char) : Option (List Char) :=
  ((clusters cs).foldlM Draft.read? {}).map fun d => d.reversed.reverse

end ValueLattice.Text
