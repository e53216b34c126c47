/-
Lookup tables. A table is a list of entries, each of which maps several inputs to one output,
together with the flat mapping from inputs to outputs. The mapping is always the one derived from
the entries, where a later entry wins over an earlier one.
-/
import ValueLattice.Hashing
import ValueLattice.Keyed
import ValueLattice.Numeral
import ValueLattice.Text.Split

namespace ValueLattice

/-- Inputs that share an output. -/
structure TableEntry where
  inputs : List Int64
  output : Int64
  deriving DecidableEq, Repr

namespace TableEntry

def text (e : TableEntry) : String :=
  Text.bracketed (e.inputs.map fun v => Numeral.signedHex v.toInt) ++ " -> " ++
    Numeral.signedHex e.output.toInt

instance : Hashed TableEntry where
  feed e := feedList (fun v => [.signed v]) e.inputs ++ [.signed e.output]

/-- The mapping with each input of the entry mapped to its output. -/
def addTo (m : Keyed Int64 Int64) (e : TableEntry) : Keyed Int64 Int64 :=
  e.inputs.foldl (fun m v => m.put v e.output) m

end TableEntry

/-- The mapping derived from a list of entries. -/
def flatMapping (entries : List TableEntry) : Keyed Int64 Int64 :=
  entries.foldl TableEntry.addTo Keyed.empty

structure LookupTable where
  entries : List TableEntry
  mapping : Keyed Int64 Int64
  mapping_eq : mapping = flatMapping entries

namespace LookupTable

def empty : LookupTable :=
  ⟨[], Keyed.empty, rfl⟩

/-- The table with one entry more; only the mapping of the entry's inputs changes. -/
def push (t : LookupTable) (e : TableEntry) : LookupTable where
  entries := t.entries ++ [e]
  mapping := e.addTo t.mapping
  mapping_eq := by simp [flatMapping, t.mapping_eq]

def ofEntries (entries : List TableEntry) : LookupTable :=
  entries.foldl push empty

/-- The output for an input. -/
def resolve (t : LookupTable) (v : Int64) : Option Int64 :=
  t.mapping.get? v

/-- The mapping as pairs in ascending order of the inputs. -/
def pairs (t : LookupTable) : List (Int64 × Int64) :=
  t.mapping.rows.mergeSort fun a b => decide (a.1 ≤ b.1)

def size (t : LookupTable) : Nat :=
  t.entries.length

/-- Tables are compared by their entries. -/
instance : BEq LookupTable where
  beq a b := a.entries == b.entries

instance : Hashed LookupTable where
  feed t := feedList feed t.entries

/-! ## The entries -/

@[simp] theorem entries_push (t : LookupTable) (e : TableEntry) :
    (t.push e).entries = t.entries ++ [e] := rfl

@[simp] theorem entries_ofEntries (entries : List TableEntry) :
    (ofEntries entries).entries = entries := by
  have pushed : ∀ (es : List TableEntry) (t : LookupTable),
      (es.foldl push t).entries = t.entries ++ es := by
    intro es
    induction es with
    | nil => simp
    | cons e es ih => intro t; simp [ih]
  exact pushed entries empty

/-- A table is determined by its entries. -/
theorem ext_entries {a b : LookupTable} (h : a.entries = b.entries) : a = b := by
  obtain ⟨es, m, hm⟩ := a
  obtain ⟨fs, n, hn⟩ := b
  subst hm hn
  subst h
  rfl

end LookupTable

end ValueLattice
