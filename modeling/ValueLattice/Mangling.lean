/-
The older scheme of symbol names, which spells out a path as counted elements between `_ZN` and `E`.
`legacyPath?` gives the path with its escapes undone and without the hash at its end, and keeps
a suffix that begins with a dot. It knows that scheme alone, and names of the newer scheme, which
begin with `_R`, are no names to it. What is said of functions and their names holds for any
demangler; the executable is built with this one.
-/
import ValueLattice.Numeral.Reading
import ValueLattice.Text.Split

namespace ValueLattice.Mangling

/-! ## The frame -/

/-- What stands before and after the first occurrence of `mark`. -/
def cutAt (mark : List Char) : List Char → Option (List Char × List Char)
  | [] => if mark.isEmpty then some ([], []) else none
  | c :: cs =>
    if mark.isPrefixOf (c :: cs) then some ([], (c :: cs).drop mark.length)
    else (cutAt mark cs).map fun p => (c :: p.1, p.2)

/-- The name without the mark of a renamed import, which is `.llvm.` and upper-case hexadecimal
digits or at signs up to the end. -/
def withoutImportMark (name : List Char) : List Char :=
  match cutAt ".llvm.".toList name with
  | some (before, after) =>
    if after.all fun c => ('A' ≤ c && c ≤ 'F') || c.isDigit || c == '@' then before else name
  | none => name

/-- What follows the opening of a mangled name. -/
def opened? : List Char → Option (List Char)
  | '_' :: 'Z' :: 'N' :: rest => some rest
  | 'Z' :: 'N' :: rest => some rest
  | '_' :: '_' :: 'Z' :: 'N' :: rest => some rest
  | _ => none

/-- The value of a run of decimal digits. -/
def count (digits : List Char) : Nat :=
  digits.foldl (fun n c => n * 10 + (c.toNat - 48)) 0

/-- The counted elements up to the closing `E`, and the suffix after it. An element is followed by
another character. -/
def elements? : List Char → Option (List (List Char) × List Char)
  | [] => none
  | c :: cs =>
    if c = 'E' then some ([], cs)
    else if c.isDigit then
      let length := count (c :: cs.takeWhile Char.isDigit)
      let rest := cs.dropWhile Char.isDigit
      if length < rest.length then
        (elements? (rest.drop length)).map fun p => (rest.take length :: p.1, p.2)
      else none
    else none
termination_by cs => cs.length
decreasing_by
  have := (List.IsSuffix.length_le (List.dropWhile_suffix Char.isDigit : cs.dropWhile Char.isDigit <:+ cs))
  simp only [List.length_drop, List.length_cons]
  omega

/-- A suffix is empty, or a dot with printable characters after it. -/
def isSuffix (suffix : List Char) : Bool :=
  match suffix with
  | [] => true
  | c :: cs => c == '.' && cs.all fun d => '!' ≤ d && d ≤ '~'

/-! ## The elements -/

/-- Whether an element is a hash: an `h` with hexadecimal digits after it. -/
def isHash : List Char → Bool
  | 'h' :: digits => digits.all fun c => (Numeral.digitValue? 16 c).isSome
  | _ => false

/-- The control characters. -/
def isControl (c : Char) : Bool :=
  c.toNat ≤ 0x1f || (0x7f ≤ c.toNat && c.toNat ≤ 0x9f)

/-- The character of a code point in lower-case hexadecimal, unless it is a control character. -/
def codePoint? (digits : List Char) : Option Char :=
  if !digits.isEmpty && digits.all fun c => c.isDigit || ('a' ≤ c && c ≤ 'f') then
    let n := digits.foldl (fun n c => n * 16 + (Numeral.digitValue? 16 c).getD 0) 0
    if h : n.isValidChar then
      let c := Char.ofNatAux n h
      if isControl c then none else some c
    else none
  else none

/-- The character that an escape between dollar signs stands for. -/
def unescape? (escape : List Char) : Option Char :=
  match escape with
  | ['S', 'P'] => some '@'
  | ['B', 'P'] => some '*'
  | ['R', 'F'] => some '&'
  | ['L', 'T'] => some '<'
  | ['G', 'T'] => some '>'
  | ['L', 'P'] => some '('
  | ['R', 'P'] => some ')'
  | ['C'] => some ','
  | 'u' :: digits => codePoint? digits
  | _ => none

theorem length_of_splitOnce {mark : Char} {cs : List Char} {p : List Char × List Char}
    (h : Text.splitOnce mark cs = some p) : p.2.length < cs.length := by
  rw [Text.eq_append_of_splitOnce h, List.length_append, List.length_cons]
  omega

/-- An element with its escapes undone. Two dots separate path parts; after an escape that is not
understood the rest stays as it is. -/
def decoded : List Char → List Char
  | [] => []
  | '.' :: '.' :: rest => ':' :: ':' :: decoded rest
  | '$' :: rest =>
    match _found : Text.splitOnce '$' rest with
    | some (escape, after) =>
      match unescape? escape with
      | some c => c :: decoded after
      | none => '$' :: rest
    | none => '$' :: rest
  | c :: rest => c :: decoded rest
termination_by cs => cs.length
decreasing_by
  · simp only [List.length_cons]; omega
  · have shorter : after.length < rest.length := length_of_splitOnce _found
    simp only [List.length_cons]; omega
  · simp

/-- The text of an element; an underscore in front of an escape is dropped. -/
def elementText (element : List Char) : String :=
  match element with
  | '_' :: '$' :: rest => String.ofList (decoded ('$' :: rest))
  | cs => String.ofList (decoded cs)

/-- The elements without a hash at their end. -/
def withoutHash (elements : List (List Char)) : List (List Char) :=
  match elements.getLast? with
  | some last => if isHash last then elements.dropLast else elements
  | none => elements

/-! ## Names -/

/-- The path that a name of the older scheme spells, nothing if it is no such name. -/
def legacyPath? (name : String) : Option String := do
  let inner ← opened? (withoutImportMark name.toList)
  if inner.all fun c => c.toNat < 128 then
    let (elements, suffix) ← elements? inner
    if isSuffix suffix then
      some (Text.joined "::" ((withoutHash elements).map elementText) ++ String.ofList suffix)
    else none
  else none

end ValueLattice.Mangling
